/-
# Patterns of literals as scanners

The pattern of a literal goes its way through a text as the scanner reads it
(`Marking.through_literals`).  Each part is compared by itself.  A word leaves no choice
(`Pattern.through_word`).  The digits are taken as one run: in front of a size or label
because these may be absent, and in front of a marker because no marker starts with a
digit, so that a shorter run would not help (`Pattern.through_digitsPart`).  A label is
taken up to the first closing brace (`Pattern.through_labelPart`).

So the search for the pattern is a scan from the left, for the first place at which a
literal starts (`Marking.find?_of_first`, `Marking.find?_eq_none`).
-/

import Mathlib.Data.Nat.Find
import AsmListing.Proofs.Architecture.LiteralPattern
import AsmListing.Proofs.Architecture.Places
import AsmListing.Proofs.Literal.Parts
import AsmListing.Proofs.Pattern.Uncased

namespace AsmListing

open Architecture

/-! ### The sets of the parts -/

theorem isHexDigit_wide {c : Char} (h : ¬c.toNat < 128) : isHexDigit c = false := by
  by_contra hd
  rw [Bool.not_eq_false, isHexDigit] at hd
  simp only [Char.isDigit, Char.le_def, UInt32.le_iff_toNat_le, Bool.or_eq_true, Bool.and_eq_true,
    decide_eq_true_eq] at hd
  change ¬c.val.toNat < 128 at h
  have bounds : 'f'.val.toNat < 128 ∧ 'F'.val.toNat < 128 ∧ '9'.val.toNat < 128 := by decide
  omega

theorem isSizeLetter_wide {c : Char} (h : ¬c.toNat < 128) : Opcode.isSizeLetter c = false := by
  rw [Opcode.isSizeLetter, toLower_of_wide h, decide_eq_false_iff_not]
  intro letter
  have narrow : ['q', 'l', 'w', 'b'].all fun d => d.toNat < 128 := by decide
  exact h (of_decide_eq_true (List.all_eq_true.1 narrow c letter))

namespace Architecture

theorem has_digitSet : digitSet.has = isHexDigit :=
  funext (CharSet.has_eq_of_ascii (by decide) (by decide +kernel) fun _ => isHexDigit_wide)

theorem has_sizeSet (c : Char) : sizeSet.has c = Opcode.isSizeLetter c :=
  CharSet.has_eq_of_ascii (by decide) (by decide +kernel) (fun _ => isSizeLetter_wide) c

end Architecture

namespace CharSet

/-- The set of a sign is known from lower case. -/
theorem has_single {a : Char} (ha : a ∈ signs) (c : Char) :
    (CharSet.single a).has c = (c.toLower == a) := by
  have ascii : signs.all fun a => (CharSet.single a).isNarrow && decide (a.toNat < 128) &&
      decide (∀ n : Fin 128, (CharSet.single a).has (Char.ofNat n) =
        ((Char.ofNat n).toLower == a)) := by
    decide +kernel
  have known := List.all_eq_true.1 ascii a ha
  simp only [Bool.and_eq_true, decide_eq_true_eq] at known
  obtain ⟨⟨narrow, small⟩, known⟩ := known
  have wide : ∀ d : Char, ¬d.toNat < 128 → (d.toLower == a) = false := by
    intro d hd
    rw [toLower_of_wide hd, beq_eq_false_iff_ne]
    rintro rfl
    exact hd small
  exact CharSet.has_eq_of_ascii (f := fun d => d.toLower == a) narrow known wide c

end CharSet

theorem Architecture.has_labelSet (c : Char) : labelSet.has c = decide (c ≠ '\x7d') := by
  change (!(false || (CharSet.single '\x7d').has c)) = _
  rw [CharSet.has_single_of_isUncased (by decide +kernel), Bool.false_or, decide_not]

namespace Pattern

/-! ### The parts one by one -/

/-- The pattern of a word in any case. -/
def word (w : Text) : Pattern :=
  sequence (w.map fun c => one (.single c))

/-- **A word is gone through as it is spelled.** -/
theorem through_word {w : Text} (hw : w.all (· ∈ signs) = true) (b : Bool) (s : Text) (k : Onward) :
    (word w).through b s k = (Text.cutWord? w s).bind fun (t, r) =>
      (k (b && w.isEmpty) r).map (Trail.ofText t ++ ·) := by
  unfold word
  induction w generalizing b s with
  | nil =>
    rw [Text.cutWord?_nil, List.map_nil, sequence, through_empty]
    simp [Trail.ofText]
  | cons a w ih =>
    rw [List.all_cons, Bool.and_eq_true, decide_eq_true_eq] at hw
    rw [List.map_cons, through_sequence_cons]
    cases s with
    | nil =>
      rw [Text.cutWord?_cons_nil]
      rfl
    | cons c s =>
      rw [through_one, CharSet.has_single hw.1, Text.cutWord?_cons_cons]
      by_cases hc : c.toLower = a
      · rw [if_pos hc, if_pos (beq_iff_eq.2 hc), ih hw.2]
        cases Text.cutWord? w s with
        | none => rfl
        | some tr =>
          obtain ⟨t, r⟩ := tr
          rw [Option.map_some, Option.bind_some, Option.bind_some, Option.map_map,
            List.isEmpty_cons, Bool.and_false, Bool.false_and]
          rfl
      · rw [if_neg hc, if_neg (mt beq_iff_eq.1 hc)]
        rfl

/-- Of some words the first is taken from which one can go on. -/
theorem through_words {words : List Text} (nonempty : words ≠ [])
    (spelled : ∀ w ∈ words, w ≠ [] ∧ w.all (· ∈ signs) = true) (b : Bool) (s : Text)
    (k : Onward) : (choice (words.map word)).through b s k = words.findSome? fun w =>
      (Text.cutWord? w s).bind fun (t, r) => (k false r).map (Trail.ofText t ++ ·) := by
  induction words with
  | nil => exact absurd rfl nonempty
  | cons w ws ih =>
    obtain ⟨nonempty, letters⟩ := spelled w (List.mem_cons_self ..)
    have first : (word w).through b s k = (Text.cutWord? w s).bind fun (t, r) =>
        (k false r).map (Trail.ofText t ++ ·) := by
      rw [through_word letters, List.isEmpty_eq_false_iff.2 nonempty, Bool.and_false]
    cases ws with
    | nil =>
      rw [List.findSome?_singleton, ← first]
      rfl
    | cons w' ws =>
      have later := ih (List.cons_ne_nil _ _) fun v hv => spelled v (List.mem_cons_of_mem _ hv)
      rw [List.findSome?_cons, ← first, ← later, List.map_cons, List.map_cons, choice, through_alt]
      · cases (word w).through b s k <;> rfl
      · exact List.cons_ne_nil _ _

/-- **The digits are taken as one run,** where it makes no difference that they could be
fewer. -/
theorem through_digitsPart {k : Onward} {s : Text} (hk : Settled digitSet k s) (b : Bool) :
    digitsPart.through b s k = (Marking.digits? s).bind fun (digits, r) =>
      (k false r).map (Trail.within GroupName.digits digits ++ ·) := by
  rw [digitsPart, through_group_run hk, has_digitSet, Marking.digits?]
  split <;> rfl

/-- A label in an open brace is taken up to the first closing one, if there is anything
before it. -/
theorem through_closedLabel (s : Text) :
    (seq (group GroupName.label (plus (one labelSet) true)) (one (.single '\x7d'))).through
        false s accept =
      (((Text.cutAt '\x7d' s).map Prod.fst).filter fun l => !l.isEmpty).map fun l =>
        Trail.within GroupName.label l ++ [.char '\x7d'] := by
  have closing : ∀ b c r, (one (.single '\x7d')).through b (c :: r) accept =
      if c = '\x7d' then some [.char c] else none := by
    intro b c r
    rw [through_one, CharSet.has_single_of_isUncased (by decide +kernel)]
    simp [accept]
  -- no brace stands where a run of label characters could go on
  have stuck : ∀ b c r, labelSet.has c = true →
      (one (.single '\x7d')).through b (c :: r) accept = none := by
    intro b c r hc
    rw [has_labelSet, decide_eq_true_eq] at hc
    rw [closing, if_neg hc]
  rw [through_seq, through_group_run (.stuck stuck), funext has_labelSet]
  rcases hs : Text.cutAt '\x7d' s with _ | ⟨l, r⟩
  · have unclosed : ∀ c ∈ s, decide (c ≠ '\x7d') = true := by
      rintro c hc
      rw [decide_eq_true_eq]
      rintro rfl
      exact Text.cutAt_eq_none_iff.1 hs hc
    have all := List.dropWhile_eq_nil_iff.2 unclosed
    rw [all]
    exact ite_self none
  · obtain ⟨unclosed, rfl⟩ := Text.cutAt_eq_some_iff.1 hs
    have label : ∀ c ∈ l, decide (c ≠ '\x7d') = true := by
      rintro c hc
      rw [decide_eq_true_eq]
      rintro rfl
      exact unclosed hc
    obtain ⟨htake, hdrop⟩ := Text.takeWhile_append_run (s := '\x7d' :: r) label (by simp)
    rw [htake, hdrop, closing, if_pos rfl]
    cases l <;> rfl

/-- **A label is taken where there is one.** -/
theorem through_labelPart (b : Bool) (s : Text) :
    labelPart.through b s accept = some (((Marking.label? s).map fun l =>
      .char '\x7b' :: Trail.within GroupName.label l ++ [.char '\x7d']).getD []) := by
  rw [labelPart, through_optional, through_seq]
  cases s with
  | nil => rfl
  | cons c s =>
    have opening : (CharSet.single '\x7b').has c = decide (c = '\x7b') :=
      CharSet.has_single_of_isUncased (by decide +kernel) c
    rw [through_one, opening]
    by_cases hc : c = '\x7b'
    · subst hc
      rw [if_pos (decide_eq_true rfl), through_closedLabel, Marking.label?]
      cases ((Text.cutAt '\x7d' s).map Prod.fst).filter fun l => !l.isEmpty <;> rfl
    · have unlabelled : Marking.label? (c :: s) = none := by
        unfold Marking.label?
        split
        · next h => exact absurd (List.cons.inj h).1 hc
        · rfl
      rw [if_neg (by simpa using hc), unlabelled]
      rfl

/-- **A size is taken where there is one,** when one can always go on. -/
theorem through_sizePart {k : Onward} (hk : ∀ b r, (k b r).isSome = true) (b : Bool) (s : Text) :
    sizePart.through b s k = (Marking.size? s).elim (k b s) fun size =>
      (k false (s.drop size.length)).map (Trail.within GroupName.size size ++ ·) := by
  have point : ∀ c, (CharSet.single '.').has c = decide (c = '.') :=
    CharSet.has_single_of_isUncased (by decide +kernel)
  rw [sizePart, through_optional, through_group, through_seq]
  rcases s with _ | ⟨c, _ | ⟨d, r⟩⟩
  · rfl
  · rw [through_one, through_one_nil]
    simp [Marking.size?]
  · rw [through_one, through_one, point, has_sizeSet]
    by_cases hc : c = '.'
    · subst hc
      by_cases hd : Opcode.isSizeLetter d = true
      · have size : Marking.size? ('.' :: d :: r) = some ['.', d] := if_pos hd
        obtain ⟨t, ht⟩ := Option.isSome_iff_exists.1 (hk false r)
        rw [size, if_pos (decide_eq_true rfl), if_pos hd]
        simp [ht, Trail.within, Trail.ofText]
      · have size : Marking.size? ('.' :: d :: r) = none := if_neg hd
        rw [size, if_pos (decide_eq_true rfl), if_neg hd]
        rfl
    · have size : Marking.size? (c :: d :: r) = none := by
        unfold Marking.size?
        split
        · next h => exact absurd (List.cons.inj h).1 hc
        · rfl
      rw [size, if_neg (by simpa using hc)]
      rfl

end Pattern

namespace Marking

open Pattern

/-- The pattern of the markers. -/
def pattern (m : Marking) : Pattern :=
  choice (m.markers.map word)

/-- The pattern of the literals. -/
def literals (m : Marking) : Pattern :=
  sequence (literalParts m.pattern m.last)

/-- What may follow marker and digits is taken as it is read. -/
theorem through_suffix (marker digits : Text) (b : Bool) (s : Text) :
    (sequence [sizePart, labelPart]).through b s accept =
      some (followedBy marker digits s).suffix := by
  rw [through_sequence_cons]
  change sizePart.through b s (fun b r => labelPart.through b r accept) = _
  rw [through_sizePart fun b r => by rw [through_labelPart]; rfl]
  unfold followedBy LiteralParts.suffix
  cases size? s with
  | none => exact through_labelPart b s
  | some size =>
    rw [Option.elim_some, through_labelPart]
    rfl

variable (m : Marking)

/-- Of the markers the first is taken from which one can go on. -/
theorem through_markers (b : Bool) (s : Text) (k : Onward) :
    (group GroupName.marker m.pattern).through b s k = m.markers.findSome? fun w =>
      (Text.cutWord? w s).bind fun (t, r) =>
        (k false r).map (Trail.within GroupName.marker t ++ ·) := by
  rw [through_group, pattern, through_words m.nonempty m.spelled, List.map_findSome?]
  congr 1
  funext w
  dsimp only [Function.comp]
  cases Text.cutWord? w s with
  | none => rfl
  | some tr =>
    obtain ⟨t, r⟩ := tr
    cases hk : k false r with
    | none => simp [hk]
    | some u => simp [hk, Trail.within]

/-- No marker behind digits is taken in front of a digit. -/
theorem through_markers_of_isHexDigit (hl : m.last = true) {c : Char} (hc : isHexDigit c = true)
    (b : Bool) (s : Text) (k : Onward) :
    (group GroupName.marker m.pattern).through b (c :: s) k = none := by
  rw [through_markers, List.findSome?_eq_none_iff]
  intro w hw
  cases found : Text.cutWord? w (c :: s) with
  | none => rfl
  | some tr =>
    obtain ⟨t, r⟩ := tr
    obtain ⟨rfl, split⟩ := Text.cutWord?_eq_some_iff.1 found
    have apart := m.not_isHexDigit_head? hl hw r c (by rw [← split]; rfl)
    rw [hc] at apart
    cases apart

theorem trail_followedBy (markerLast : Bool) (marker digits s : Text) :
    (followedBy marker digits s).trail markerLast =
      if markerLast then Trail.within GroupName.digits digits ++
        (Trail.within GroupName.marker marker ++ (followedBy marker digits s).suffix)
      else Trail.within GroupName.marker marker ++
        (Trail.within GroupName.digits digits ++ (followedBy marker digits s).suffix) := by
  cases markerLast <;> simp [LiteralParts.trail, followedBy]

/-- The marker in front: one can go on from the end of the digits. -/
theorem through_markerFirst (b : Bool) (s : Text) :
    (sequence (literalParts m.pattern false)).through b s accept = m.markers.findSome? fun w =>
      (Text.cutWord? w s).bind fun (marker, r) => (digits? r).map fun (digits, r) =>
        (followedBy marker digits r).trail false := by
  change (sequence (.group GroupName.marker m.pattern :: [digitsPart, sizePart, labelPart])).through
    b s accept = _
  rw [through_sequence_cons, through_markers]
  congr 1
  funext w
  rcases Text.cutWord? w s with _ | ⟨marker, r⟩
  · rfl
  · have goes : ∀ r, ((sequence [sizePart, labelPart]).through false r accept).isSome = true :=
      fun r => by rw [through_suffix marker []]; rfl
    dsimp only [Option.bind_some]
    rw [through_sequence_cons, through_digitsPart (.goes (goes _))]
    rcases digits? r with _ | ⟨digits, r⟩
    · rfl
    · dsimp only [Option.bind_some, Option.map_some]
      rw [through_suffix marker digits, trail_followedBy]
      rfl

/-- The marker behind: one cannot go on in front of a digit. -/
theorem through_markerLast (hl : m.last = true) (b : Bool) (s : Text) :
    (sequence (literalParts m.pattern true)).through b s accept = m.markers.findSome? fun w =>
      (digits? s).bind fun (digits, r) => (Text.cutWord? w r).map fun (marker, r) =>
        (followedBy marker digits r).trail true := by
  have stuck : ∀ b c r, digitSet.has c = true →
      (sequence [.group GroupName.marker m.pattern, sizePart, labelPart]).through
        b (c :: r) accept = none := by
    intro b c r hc
    rw [has_digitSet] at hc
    rw [through_sequence_cons]
    exact m.through_markers_of_isHexDigit hl hc ..
  change (sequence (digitsPart :: [.group GroupName.marker m.pattern, sizePart, labelPart])).through
    b s accept = _
  rw [through_sequence_cons, through_digitsPart (.stuck stuck)]
  rcases digits? s with _ | ⟨digits, r⟩
  · exact (List.findSome?_eq_none_iff.2 fun w _ => rfl).symm
  · dsimp only [Option.bind_some]
    rw [through_sequence_cons, through_markers, List.map_findSome?]
    congr 1
    funext w
    dsimp only [Function.comp]
    rcases Text.cutWord? w r with _ | ⟨marker, r⟩
    · rfl
    · dsimp only [Option.bind_some, Option.map_some]
      rw [through_suffix marker digits, trail_followedBy]
      rfl

/-- **The pattern of literals goes its way as a literal is read.** -/
theorem through_literals (b : Bool) (s : Text) :
    m.literals.through b s accept = (m.front? s).map (LiteralParts.trail m.last) := by
  rw [literals, front?, List.map_findSome?]
  by_cases hl : m.last = true
  · rw [hl, m.through_markerLast hl]
    congr 1
    funext w
    rw [Function.comp, frontWith?, if_pos hl]
    rcases digits? s with _ | ⟨digits, r⟩
    · rfl
    · dsimp only [Option.bind_some]
      rw [Option.map_map]
      rfl
  · rw [Bool.not_eq_true] at hl
    rw [hl, through_markerFirst]
    congr 1
    funext w
    rw [Function.comp, frontWith?, if_neg (by rw [hl]; exact Bool.false_ne_true)]
    rcases Text.cutWord? w s with _ | ⟨marker, r⟩
    · rfl
    · dsimp only [Option.bind_some]
      rw [Option.map_map]
      rfl

/-- **The search finds nothing where no literal starts.** -/
theorem find?_eq_none {s : Text} (none_starts : ∀ n, ¬m.Starts (s.drop n)) :
    m.literals.find? s = none := by
  refine findFrom_eq_none (fun b n => ?_) true
  rw [through_literals, m.front?_eq_none_iff.2 (none_starts n)]
  rfl

/-- **Else it finds the literal at the first place where one starts.** -/
theorem find?_of_first {s : Text} {n : Nat} (starts : m.Starts (s.drop n))
    (first : ∀ k < n, ¬m.Starts (s.drop k)) :
    ∃ parts hit, m.front? (s.drop n) = some parts ∧ m.literals.find? s = some hit ∧
      hit.before = s.take n ∧ hit.trail = parts.trail m.last := by
  obtain ⟨parts, hp⟩ := Option.isSome_iff_exists.1 (m.isSome_front?_iff.2 starts)
  have here : ∀ b, m.literals.through b (s.drop n) accept = some (parts.trail m.last) := by
    intro b
    rw [through_literals, hp]
    rfl
  have earlier : ∀ b, ∀ k < n, m.literals.through b (s.drop k) accept = none := by
    intro b k hk
    rw [through_literals, m.front?_eq_none_iff.2 (first k hk)]
    rfl
  exact ⟨parts, _, hp, findFrom_of_first here earlier true, rfl, rfl⟩

/-- **Either no literal starts in a text, or the first one is found.** -/
theorem find?_cases (s : Text) :
    m.literals.find? s = none ∨
      ∃ n parts hit, m.front? (s.drop n) = some parts ∧ m.literals.find? s = some hit ∧
        hit.trail = parts.trail m.last := by
  by_cases starts : ∃ n, m.Starts (s.drop n)
  · right
    obtain ⟨parts, hit, read, found, -, trail⟩ :=
      m.find?_of_first (Nat.find_spec starts) fun k hk => Nat.find_min starts hk
    exact ⟨_, parts, hit, read, found, trail⟩
  · exact .inl (m.find?_eq_none (not_exists.1 starts))

/-! ### The markings that are always known -/

/-- The patterns of the definitions that are always known, read one by one. -/
theorem ofText_definitions : definitions.all (fun d =>
    (Pattern.ofText d.marker).toOption = some (ofKey (some d.key)).pattern &&
      d.markerLast = (ofKey (some d.key)).last) = true := by
  decide +kernel

/-- The marker of an architecture that is always known. -/
theorem marker_of_mem_builtin {p : Profile} (hp : p ∈ builtin.profiles) :
    Pattern.ofText p.definition.marker = .ok (ofKey (some p.key)).pattern ∧
      p.definition.markerLast = (ofKey (some p.key)).last := by
  have known := List.all_eq_true.1 ofText_definitions _ (compile_of_mem_builtin hp).1
  rw [Bool.and_eq_true, decide_eq_true_eq, decide_eq_true_eq] at known
  exact ⟨Certain.eq_ok_of_toOption known.1, known.2⟩

/-- **The literals of an architecture that is always known are those of its marking,** and so
are those where no architecture is chosen. -/
theorem literalStyle_pattern {profile : Option Profile}
    (hp : ∀ p ∈ profile, p ∈ builtin.profiles) :
    (literalStyle profile).pattern = (ofKey (profile.map Profile.key)).literals := by
  cases profile with
  | none =>
    have marker : Pattern.ofText genericMarker = .ok dollarOrZeroX.pattern :=
      Certain.eq_ok_of_toOption (by decide +kernel)
    exact ofText_literalPattern marker ofText_generic
  | some p =>
    obtain ⟨marker, last⟩ := marker_of_mem_builtin (hp p rfl)
    have literals := ofText_literalPattern marker
      (Registry.literals_of_mem ofDefinitions_definitions (hp p rfl))
    rw [last] at literals
    exact literals

end Marking
end AsmListing
