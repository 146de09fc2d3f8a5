/-
# Lexemes of a text that goes on

A lexeme ends where it ends: what follows it may change a repetition or an opening
parenthesis only, and only when it is a question mark.  So when a text has lexemes
and is followed by a text that starts with no question mark, its lexemes stay and
those of the other text come behind them (`ofText_append`).

The two places where a lexeme is scanned to a length that is not fixed are classes
(`classFrom_append`) and counts (`countedRepetition_append`).  There it is used
that the scan did not fail at the end of the text.
-/

import AsmListing.Certain
import AsmListing.Pattern.Lexeme
import AsmListing.Proofs.Text.Trimming

namespace AsmListing

theorem Text.trimLeft_append_of_ne_nil {s : Text} (hs : trimLeft s ≠ []) (t : Text) :
    trimLeft (s ++ t) = trimLeft s ++ t := by
  rw [trimLeft, List.dropWhile_append, if_neg (by simpa [trimLeft] using hs)]
  rfl

/-- A run of characters of one kind that ends inside of a text ends there. -/
theorem Text.takeWhile_append_of_lt {p : Char → Bool} {s : Text}
    (hs : (s.takeWhile p).length < s.length) (t : Text) :
    (s ++ t).takeWhile p = s.takeWhile p := by
  rw [List.takeWhile_append, if_neg (by omega)]

namespace Pattern
namespace Lexeme

/-- What a backslash stands for is told by one character. -/
theorem escaped_append {s : Text} {d : Char} (h : escaped s = .ok d) (t : Text) :
    escaped (s ++ t) = .ok d ∧ 0 < s.length := by
  cases s with
  | nil => cases h
  | cons c s =>
    refine ⟨?_, Nat.succ_pos _⟩
    rw [← h, List.cons_append]
    unfold escaped
    split <;> simp_all

theorem escapedSet_append {s : Text} {set : CharSet} (h : escapedSet s = .ok set) (t : Text) :
    escapedSet (s ++ t) = .ok set ∧ 0 < s.length := by
  cases s with
  | nil => cases h
  | cons c s =>
    refine ⟨?_, Nat.succ_pos _⟩
    have same : (c :: s ++ t).head? = (c :: s).head? := rfl
    unfold escapedSet at h ⊢
    rw [same]
    split at h
    · next blank => rw [if_pos blank, h]
    split at h
    · next blank letter => rw [if_neg blank, if_pos letter, h]
    · next blank letter =>
      obtain ⟨d, he, rfl⟩ := Certain.map_eq_ok_iff.1 h
      rw [if_neg blank, if_neg letter, (escaped_append he t).1]
      rfl

theorem member_append {c : Char} {s : Text} {d : Char} {n : Nat} (h : member c s = .ok (d, n))
    (t : Text) : member c (s ++ t) = .ok (d, n) ∧ n ≤ s.length := by
  unfold member at h ⊢
  split at h
  · next hc =>
    obtain ⟨d', he, heq⟩ := Certain.map_eq_ok_iff.1 h
    cases heq
    obtain ⟨he', hs⟩ := escaped_append he t
    rw [if_pos hc, he']
    exact ⟨rfl, hs⟩
  · next hc =>
    cases h
    rw [if_neg hc]
    exact ⟨rfl, Nat.zero_le _⟩

/-- A range is told by what is in it, unless the text breaks off behind a dash. -/
theorem span_append {c : Char} {s : Text} {set : CharSet} {n : Nat} (h : span c s = .ok (set, n))
    (hn : n < s.length) (hd : s.drop n ≠ ['-']) (t : Text) :
    span c (s ++ t) = .ok (set, n) := by
  unfold span at h ⊢
  cases hm : member c s with
  | error e => rw [hm] at h; cases h
  | ok first =>
    obtain ⟨d, k⟩ := first
    obtain ⟨hm', hk⟩ := member_append hm t
    rw [hm] at h
    rw [hm']
    simp only [bind, Except.bind, pure, Except.pure] at h ⊢
    rw [List.drop_append_of_le_length hk]
    cases hs : s.drop k with
    | nil =>
      rw [hs] at h
      cases h
      rw [List.drop_eq_nil_iff] at hs
      omega
    | cons a u =>
      rw [hs] at h
      by_cases ha : a = '-'
      · subst ha
        cases u with
        | nil => cases h; exact absurd hs hd
        | cons e rest =>
          simp only [List.cons_append] at h ⊢
          by_cases he : (e = ']' || e = '-') = true
          · rw [if_pos he] at h ⊢
            exact h
          · rw [if_neg he] at h ⊢
            cases hl : member e rest with
            | error e' => rw [hl] at h; cases h
            | ok last => rw [hl] at h; rw [(member_append hl t).1]; exact h
      · rw [List.cons_append]
        split at h
        · next heq => exact absurd (List.cons.inj heq).1 ha
        · split
          · next heq => exact absurd (List.cons.inj heq).1 ha
          · exact h

/-- A class that is closed has a closing bracket in front of it, and not just a
dash. -/
theorem classFrom_ahead {current : OpenClass} {outer : List OpenClass} {count skip : Nat}
    {s : Text} {set : CharSet} {n : Nat}
    (h : classFrom current outer count skip s = .ok (set, n)) :
    skip < s.length ∧ s.drop skip ≠ ['-'] := by
  induction s generalizing count skip with
  | nil => rw [classFrom] at h; cases h
  | cons c s ih =>
    cases skip with
    | succ skip =>
      rw [classFrom] at h
      obtain ⟨hlt, hd⟩ := ih h
      exact ⟨Nat.succ_lt_succ hlt, hd⟩
    | zero =>
      refine ⟨Nat.succ_pos _, ?_⟩
      rintro ⟨⟩
      cases h

/-- How a class starts is told by what is in it. -/
theorem OpenClass.start_append {s : Text} (hs : (OpenClass.start s).2 < s.length) (t : Text) :
    OpenClass.start (s ++ t) = OpenClass.start s := by
  obtain ⟨c, s, rfl⟩ := List.exists_cons_of_length_pos (Nat.zero_lt_of_lt hs)
  have body : ∀ r : Text, (r.takeWhile (· = '-')).length < r.length →
      (r ++ t).takeWhile (· = '-') = r.takeWhile (· = '-') ∧ (r ++ t).head? = r.head? := by
    intro r hr
    obtain ⟨d, r, rfl⟩ := List.exists_cons_of_length_pos (Nat.zero_lt_of_lt hr)
    exact ⟨Text.takeWhile_append_of_lt hr t, rfl⟩
  unfold OpenClass.start at hs ⊢
  by_cases hc : c = '^'
  · subst hc
    simp only [List.cons_append, List.head?_cons, List.tail_cons, if_true, List.length_cons,
      decide_true] at hs ⊢
    have hlt : (s.takeWhile (· = '-')).length < s.length := by
      split at hs
      · dsimp only at hs; omega
      · split at hs <;> dsimp only at hs <;> omega
    rw [(body s hlt).1, (body s hlt).2]
  · simp only [List.cons_append, List.head?_cons, Option.some.injEq, hc, decide_false, if_false]
      at hs ⊢
    have hlt : ((c :: s).takeWhile (· = '-')).length < (c :: s).length := by
      split at hs
      · dsimp only at hs; omega
      · rw [List.length_cons]; omega
    rw [← List.cons_append, (body (c :: s) hlt).1]

/-- A bracket in a class opens another one. -/
theorem classFrom_opening (current : OpenClass) (outer : List OpenClass) (count : Nat) {s : Text}
    (hs : s.head? ≠ some ':') : classFrom current outer count 0 ('[' :: s) =
      classFrom (OpenClass.start s).1 (current :: outer) (count + 1) (OpenClass.start s).2 s := by
  cases outer <;> rw [classFrom, if_neg (by decide), if_pos rfl, if_neg hs]

/-- Any other character starts a member or a range. -/
theorem classFrom_span {c : Char} (hclose : c ≠ ']') (hopen : c ≠ '[') (current : OpenClass)
    (outer : List OpenClass) (count : Nat) {s : Text} (hs : ¬isClassOperation c s = true)
    {set : CharSet} {n : Nat} (h : span c s = .ok (set, n)) :
    classFrom current outer count 0 (c :: s) =
      classFrom (current.add set) outer (count + 1) n s := by
  cases outer <;> rw [classFrom, if_neg hclose, if_neg hopen, if_neg hs, h]

theorem isClassOperation_append {c : Char} {s : Text} (hs : s ≠ []) (t : Text) :
    isClassOperation c (s ++ t) = isClassOperation c s := by
  obtain ⟨d, s, rfl⟩ := List.exists_cons_of_ne_nil hs
  rfl

/-- **A class that is closed is told by what is in it.** -/
theorem classFrom_append {current : OpenClass} {outer : List OpenClass} {count skip : Nat}
    {s : Text} {set : CharSet} {n : Nat}
    (h : classFrom current outer count skip s = .ok (set, n)) (t : Text) :
    classFrom current outer count skip (s ++ t) = .ok (set, n) ∧ n ≤ count + s.length := by
  fun_induction classFrom current outer count skip s with
  | case1 | case5 | case7 | case8 => cases h
  | case2 current outer count skip c s ih =>
    rw [List.cons_append, classFrom]
    obtain ⟨ih, hn⟩ := ih h
    exact ⟨ih, by rw [List.length_cons]; omega⟩
  | case3 current count s =>
    cases h
    exact ⟨rfl, by rw [List.length_cons]; omega⟩
  | case4 current count s k outer ih =>
    obtain ⟨ih, hn⟩ := ih h
    exact ⟨ih, by rw [List.length_cons]; omega⟩
  | case6 current outer count s hcolon inner skip hstart hne ih =>
    have hlt := (classFrom_ahead h).1
    obtain ⟨d, r, rfl⟩ := List.exists_cons_of_length_pos (Nat.zero_lt_of_lt hlt)
    have hst : OpenClass.start (d :: r ++ t) = (inner, skip) := by
      rw [OpenClass.start_append (by rw [hstart]; exact hlt), hstart]
    obtain ⟨ih, hn⟩ := ih h
    rw [List.cons_append, classFrom_opening (s := d :: r ++ t) current outer count hcolon, hst]
    exact ⟨ih, by rw [List.length_cons]; omega⟩
  | case9 current outer count c s hclose hopen hop set skip hspan ih =>
    obtain ⟨hlt, hd⟩ := classFrom_ahead h
    have hne : s ≠ [] := List.ne_nil_of_length_pos (Nat.zero_lt_of_lt hlt)
    obtain ⟨ih, hn⟩ := ih h
    rw [List.cons_append, classFrom_span hclose hopen current outer count
      (by rw [isClassOperation_append hne]; exact hop) (span_append hspan hlt hd t)]
    exact ⟨ih, by rw [List.length_cons]; omega⟩

/-- A name is told by what stands before its closing bracket. -/
theorem groupName_append {s : Text} {name : Text} {n : Nat} (h : groupName s = .ok (name, n))
    (t : Text) : groupName (s ++ t) = .ok (name, n) ∧ n ≤ s.length := by
  unfold groupName at h ⊢
  dsimp only at h ⊢
  split at h
  · next hs =>
    rw [Bool.and_eq_true, decide_eq_true_eq] at hs
    have hlt : (s.takeWhile (· ≠ '>')).length < (s ++ t).length := by
      rw [List.length_append]
      omega
    rw [Text.takeWhile_append_of_lt hs.2 t, if_pos]
    · cases h
      exact ⟨rfl, hs.2⟩
    · rw [Bool.and_eq_true, decide_eq_true_eq]
      exact ⟨hs.1, hlt⟩
  · cases h

/-- The opening of a group with a name is told by the name. -/
theorem namedOpening_append {s : Text} {k : Nat} {p : Lexeme × Nat}
    (h : (groupName s).map (fun (name, n) => (opening name, n + k)) = .ok p) (t : Text) :
    (groupName (s ++ t)).map (fun (name, n) => (opening name, n + k)) = .ok p ∧
      p.2 ≤ s.length + k := by
  obtain ⟨named, hg, rfl⟩ := Certain.map_eq_ok_iff.1 h
  obtain ⟨hg', hn⟩ := groupName_append hg t
  rw [hg']
  exact ⟨rfl, Nat.add_le_add_right hn k⟩

/-- An opening parenthesis that no question mark follows opens a group without a
name. -/
theorem groupOpening_of_head? {s : Text} (hs : s.head? ≠ some '?') :
    groupOpening s = .ok (opening none, 0) := by
  unfold groupOpening
  split <;> simp_all

theorem groupOpening_append {s t : Text} {p : Lexeme × Nat} (h : groupOpening s = .ok p)
    (ht : t.head? ≠ some '?') : groupOpening (s ++ t) = .ok p ∧ p.2 ≤ s.length := by
  by_cases hs : s.head? = some '?'
  · unfold groupOpening at h
    split at h
    · cases h
      exact ⟨rfl, Nat.le_add_left ..⟩
    · exact namedOpening_append h t
    · exact namedOpening_append h t
    · cases h
    · next hn =>
      cases s with
      | nil => cases hs
      | cons c r => cases hs; exact absurd rfl (hn r)
  · have hst : (s ++ t).head? ≠ some '?' := by
      cases s with
      | nil => exact ht
      | cons c s => exact hs
    rw [groupOpening_of_head? hs] at h
    cases h
    exact ⟨groupOpening_of_head? hst, Nat.zero_le _⟩

theorem repetition_append {s t : Text} (ht : t.head? ≠ some '?') (least : Nat)
    (most : Option Nat) : repetition least most (s ++ t) = repetition least most s ∧
      (repetition least most s).2 ≤ s.length := by
  unfold repetition
  cases s with
  | nil => simp [ht]
  | cons c s =>
    refine ⟨rfl, ?_⟩
    split
    · exact Nat.succ_pos _
    · exact Nat.zero_le _

/-- A number is told by its digits and the blanks around them, if more follows. -/
theorem number_append {s r : Text} {n : Nat} {c : Char} (h : number s = .ok (n, c :: r))
    (t : Text) : number (s ++ t) = .ok (n, c :: (r ++ t)) ∧ r.length < s.length := by
  unfold number at h ⊢
  dsimp only at h ⊢
  split at h
  · cases h
  · next hdigits =>
    split at h
    · next hsmall =>
      rw [Except.ok.injEq, Prod.mk.injEq] at h
      obtain ⟨rfl, hr⟩ := h
      have hrest : Text.trimLeft ((Text.trimLeft s).drop
          ((Text.trimLeft s).takeWhile Char.isDigit).length) ≠ [] := by simp [hr]
      have hlt : ((Text.trimLeft s).takeWhile Char.isDigit).length < (Text.trimLeft s).length := by
        rw [← Nat.not_le, ← List.drop_eq_nil_iff]
        exact fun hd => hrest (by rw [hd]; rfl)
      have hne : Text.trimLeft s ≠ [] := List.ne_nil_of_length_pos (Nat.zero_lt_of_lt hlt)
      rw [Text.trimLeft_append_of_ne_nil hne, Text.takeWhile_append_of_lt hlt,
        List.drop_append_of_le_length hlt.le, Text.trimLeft_append_of_ne_nil hrest, if_neg hdigits,
        if_pos hsmall, hr]
      refine ⟨rfl, ?_⟩
      calc
        r.length < (c :: r).length := Nat.lt_succ_self _
        _ ≤ ((Text.trimLeft s).drop ((Text.trimLeft s).takeWhile Char.isDigit).length).length :=
          hr ▸ (Text.trimLeft_isSuffix _).length_le
        _ ≤ (Text.trimLeft s).length := by rw [List.length_drop]; omega
        _ ≤ s.length := (Text.trimLeft_isSuffix s).length_le
    · cases h

/-- The repetition of a count that is closed before `r`, and its length in `s`. -/
def counted (least : Nat) (most : Option Nat) (s r : Text) : Lexeme × Nat :=
  ((repetition least most r).1, (repetition least most r).2 + (s.length - r.length))

theorem counted_append {s r t : Text} (ht : t.head? ≠ some '?') (hr : r.length ≤ s.length)
    (least : Nat) (most : Option Nat) :
    counted least most (s ++ t) (r ++ t) = counted least most s r ∧
      (counted least most s r).2 ≤ s.length := by
  obtain ⟨hrep, hle⟩ := repetition_append (s := r) ht least most
  refine ⟨?_, ?_⟩
  · rw [counted, hrep, List.length_append, List.length_append, Nat.add_sub_add_right, counted]
  · rw [counted]
    omega

/-- The form `{n}`. -/
theorem countedRepetition_exact {s r : Text} {least : Nat}
    (h : number s = .ok (least, '\x7d' :: r)) :
    countedRepetition s = .ok (counted least (some least) s r) := by
  simp [countedRepetition, h, counted, bind, Except.bind, pure, Except.pure]

/-- The form `{n,}`. -/
theorem countedRepetition_atLeast {s r : Text} {least : Nat}
    (h : number s = .ok (least, ',' :: '\x7d' :: r)) :
    countedRepetition s = .ok (counted least none s r) := by
  simp [countedRepetition, h, counted, bind, Except.bind, pure, Except.pure]

/-- The form `{n,m}`. -/
theorem countedRepetition_between {s u r : Text} {least most : Nat}
    (h : number s = .ok (least, ',' :: u)) (hu : u.head? ≠ some '\x7d')
    (hm : number u = .ok (most, '\x7d' :: r)) (hle : least ≤ most) :
    countedRepetition s = .ok (counted least (some most) s r) := by
  unfold countedRepetition
  rw [h]
  simp only [bind, Except.bind, pure, Except.pure]
  split
  · next heq => cases heq; exact absurd rfl hu
  · next heq =>
    cases heq
    simp [hm, Except.map, Nat.not_lt.2 hle, counted]
  · next heq => exact absurd rfl (heq u)

/-- **A counted repetition has one of the three forms.** -/
theorem countedRepetition_cases {s : Text} {p : Lexeme × Nat} (h : countedRepetition s = .ok p) :
    ∃ least r,
      (number s = .ok (least, '\x7d' :: r) ∧ p = counted least (some least) s r) ∨
      (number s = .ok (least, ',' :: '\x7d' :: r) ∧ p = counted least none s r) ∨
      ∃ u most, number s = .ok (least, ',' :: u) ∧ u.head? ≠ some '\x7d' ∧
        number u = .ok (most, '\x7d' :: r) ∧ least ≤ most ∧
          p = counted least (some most) s r := by
  unfold countedRepetition at h
  cases hn : number s with
  | error e => rw [hn] at h; cases h
  | ok pair =>
    obtain ⟨least, r⟩ := pair
    rw [hn] at h
    simp only [bind, Except.bind, pure, Except.pure] at h
    split at h
    · next r =>
      cases h
      exact ⟨least, r, .inr (.inl ⟨rfl, rfl⟩)⟩
    · next u hu =>
      cases hm : number u with
      | error e => rw [hm] at h; cases h
      | ok pair =>
        obtain ⟨most, r⟩ := pair
        rw [hm] at h
        simp only [Except.map] at h
        split at h
        · cases h
        · next hle =>
          split at h
          · next r =>
            cases h
            refine ⟨least, r, .inr (.inr ⟨u, most, rfl, ?_, hm, Nat.not_lt.1 hle, rfl⟩)⟩
            intro hd
            cases u with
            | nil => cases hd
            | cons c u => cases hd; exact hu u rfl
          · cases h
    · rw [if_neg (Nat.lt_irrefl _)] at h
      split at h
      · next r _ _ =>
        cases h
        exact ⟨least, r, .inl ⟨rfl, rfl⟩⟩
      · cases h

theorem countedRepetition_append {s t : Text} {p : Lexeme × Nat} (h : countedRepetition s = .ok p)
    (ht : t.head? ≠ some '?') : countedRepetition (s ++ t) = .ok p ∧ p.2 ≤ s.length := by
  obtain ⟨least, r, ⟨hn, rfl⟩ | ⟨hn, rfl⟩ | ⟨u, most, hn, hu, hm, hle, rfl⟩⟩ :=
    countedRepetition_cases h
  · obtain ⟨hn', hlen⟩ := number_append hn t
    obtain ⟨hc, hcle⟩ := counted_append (s := s) ht hlen.le least (some least)
    exact ⟨(countedRepetition_exact hn').trans (congrArg _ hc), hcle⟩
  · obtain ⟨hn', hlen⟩ := number_append hn t
    rw [List.length_cons] at hlen
    obtain ⟨hc, hcle⟩ := counted_append (s := s) (r := r) ht (by omega) least none
    exact ⟨(countedRepetition_atLeast hn').trans (congrArg _ hc), hcle⟩
  · obtain ⟨hn', hlen⟩ := number_append hn t
    obtain ⟨hm', hlen'⟩ := number_append hm t
    obtain ⟨hc, hcle⟩ := counted_append (s := s) (r := r) ht (by omega) least (some most)
    have hu' : (u ++ t).head? ≠ some '\x7d' := by
      cases u with
      | nil => cases hm
      | cons c u => exact hu
    exact ⟨(countedRepetition_between hn' hu' hm' hle).trans (congrArg _ hc), hcle⟩

/-- The item of a class is told by what is in it. -/
theorem bracket_append {s : Text} {p : Lexeme × Nat} (h : first '[' s = .ok p) (t : Text) :
    first '[' (s ++ t) = .ok p ∧ p.2 ≤ s.length := by
  unfold first at h ⊢
  dsimp only at h ⊢
  cases hst : OpenClass.start s with
  | mk k skip =>
    rw [hst] at h
    dsimp only at h
    obtain ⟨⟨set, n⟩, hc, rfl⟩ := Certain.map_eq_ok_iff.1 h
    have hst' : OpenClass.start (s ++ t) = (k, skip) := by
      rw [OpenClass.start_append (by rw [hst]; exact (classFrom_ahead hc).1), hst]
    obtain ⟨hc', hn⟩ := classFrom_append hc t
    rw [hst']
    dsimp only
    rw [hc']
    exact ⟨rfl, by simpa using hn⟩

/-- **A lexeme is told by what is in it,** and by whether a question mark follows. -/
theorem first_append {c : Char} {s t : Text} {p : Lexeme × Nat} (h : first c s = .ok p)
    (ht : t.head? ≠ some '?') : first c (s ++ t) = .ok p ∧ p.2 ≤ s.length := by
  have repeats : ∀ least most, repetition least most (s ++ t) = repetition least most s ∧
      (repetition least most s).2 ≤ s.length := repetition_append ht
  unfold first at h
  split at h
  · exact groupOpening_append h ht
  · cases h; exact ⟨rfl, Nat.zero_le _⟩
  · cases h; exact ⟨rfl, Nat.zero_le _⟩
  · cases h; exact ⟨congrArg Except.ok (repeats _ _).1, (repeats _ _).2⟩
  · cases h; exact ⟨congrArg Except.ok (repeats _ _).1, (repeats _ _).2⟩
  · cases h; exact ⟨congrArg Except.ok (repeats _ _).1, (repeats _ _).2⟩
  · exact countedRepetition_append h ht
  · exact bracket_append h t
  · cases h; exact ⟨rfl, Nat.zero_le _⟩
  · cases h; exact ⟨rfl, Nat.zero_le _⟩
  · cases h; exact ⟨rfl, Nat.zero_le _⟩
  · obtain ⟨set, he, rfl⟩ := Certain.map_eq_ok_iff.1 h
    obtain ⟨he', hs⟩ := escapedSet_append he t
    exact ⟨congrArg (Except.map _) he', hs⟩
  · cases h
    refine ⟨?_, Nat.zero_le _⟩
    rw [first] <;> assumption

theorem ofText_skip_append {skip : Nat} {s t : Text} {ls : List Lexeme} (hskip : skip ≤ s.length)
    (h : ofText skip s = .ok ls) (ht : t.head? ≠ some '?') :
    ofText skip (s ++ t) = (ofText 0 t).map (ls ++ ·) := by
  fun_induction ofText skip s generalizing ls with
  | case1 skip =>
    cases h
    obtain rfl : skip = 0 := Nat.le_zero.1 hskip
    rw [List.nil_append]
    cases ofText 0 t <;> rfl
  | case2 skip c s ih => exact ih (Nat.le_of_succ_le_succ hskip) h
  | case3 => cases h
  | case4 c s l n hfirst ih =>
    obtain ⟨hfirst', hn⟩ := first_append hfirst ht
    obtain ⟨ms, hms, rfl⟩ := Certain.map_eq_ok_iff.1 h
    rw [List.cons_append, ofText, hfirst']
    dsimp only
    rw [ih hn hms]
    cases ofText 0 t <;> rfl

/-- **The lexemes of a text stay when it goes on,** and those of what follows come
behind them. -/
theorem ofText_append {s t : Text} {ls : List Lexeme} (h : ofText 0 s = .ok ls)
    (ht : t.head? ≠ some '?') : ofText 0 (s ++ t) = (ofText 0 t).map (ls ++ ·) :=
  ofText_skip_append (Nat.zero_le _) h ht

end Lexeme
end Pattern
end AsmListing
