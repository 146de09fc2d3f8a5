/-
# Patterns that list names

A pattern made of sets inside ASCII, sequences and alternatives stands for a finite list
of names, the preferred ones first (`Pattern.names?`).  It goes through a text exactly as
that list is read: it takes the first name of the list that stands at the place, in any
case, and from which one can go on (`through_names`).

So a search for the pattern is a search for the first place where any of the names stands
(`find?_names_cases`).
-/

import Mathlib.Data.Nat.Find
import AsmListing.Proofs.Pattern.Greedy
import AsmListing.Proofs.Text.Folding

namespace AsmListing

namespace CharSet

/-- The folded characters of a set that is named by ranges inside ASCII, in the order in
which they are named. -/
def letters? : CharSet → Option (List Char)
  | none => some []
  | range first last =>
    if last.toNat < 128 then
      some ((List.range' first.toNat (last.toNat + 1 - first.toNat)).map fun n =>
        (Char.ofNat n).toLower)
    else Option.none
  | union s t => s.letters?.bind fun cs => t.letters?.map (cs ++ ·)
  | compl _ => Option.none

/-- **Such a set holds the characters that fold to one of them.** -/
theorem has_eq_of_letters? {set : CharSet} {cs : List Char} (h : set.letters? = some cs)
    (c : Char) : set.has c = decide (foldCase c ∈ cs) := by
  induction set generalizing cs with
  | none =>
    cases h
    rfl
  | range first last =>
    unfold letters? at h
    split at h
    · next narrow =>
      cases h
      have between : ∀ d : Char, (first ≤ d && d ≤ last) = true ↔
          first.toNat ≤ d.toNat ∧ d.toNat ≤ last.toNat := by
        intro d
        rw [Bool.and_eq_true, decide_eq_true_eq, decide_eq_true_eq]
        exact Iff.rfl
      rw [has, Bool.eq_iff_iff, List.any_eq_true, decide_eq_true_eq, List.mem_map]
      constructor
      · rintro ⟨d, hv, hd⟩
        obtain ⟨least, most⟩ := (between d).1 hd
        refine ⟨d.toNat, List.mem_range'_1.2 ⟨least, by omega⟩, ?_⟩
        rw [Char.ofNat_toNat]
        exact (mem_caseVariants_iff (by omega)).1 hv
      · rintro ⟨n, hn, fold⟩
        obtain ⟨least, most⟩ := List.mem_range'_1.1 hn
        have number : (Char.ofNat n).toNat = n := CaseFolding.toNat_ofNat_of_valid (by omega)
        exact ⟨_, (mem_caseVariants_iff (by omega)).2 fold, (between _).2 (by omega)⟩
    · cases h
  | union s t hs ht =>
    obtain ⟨cs, hcs, h⟩ := Option.bind_eq_some_iff.1 h
    obtain ⟨ds, hds, rfl⟩ := Option.map_eq_some_iff.1 h
    rw [has, hs hcs, ht hds]
    simp
  | compl s => cases h

end CharSet

theorem findSome?_flatMap {α β γ : Type} (xs : List α) (f : α → List β) (g : β → Option γ) :
    (xs.flatMap f).findSome? g = xs.findSome? fun x => (f x).findSome? g := by
  induction xs with
  | nil => rfl
  | cons x xs ih =>
    rw [List.flatMap_cons, List.findSome?_append, ih, List.findSome?_cons]
    cases (f x).findSome? g <;> rfl

/-- Only one of the members is asked for. -/
theorem findSome?_ite {α β : Type} [DecidableEq α] (xs : List α) (a : α) (r : Option β) :
    (xs.findSome? fun x => if x = a then r else none) = if a ∈ xs then r else none := by
  induction xs with
  | nil => rfl
  | cons x xs ih =>
    rw [List.findSome?_cons, ih]
    by_cases hx : x = a
    · subst hx
      rw [if_pos rfl, if_pos (List.mem_cons_self ..)]
      cases r with
      | none => exact ite_self none
      | some _ => rfl
    · rw [if_neg hx]
      simp [Ne.symm hx]

namespace Text

/-- One name behind another stands in front of a text when each stands where it should. -/
theorem append_isPrefix_folded_iff {n m : Text} {s : Text} :
    n ++ m <+: folded s ↔ n <+: folded s ∧ m <+: folded (s.drop n.length) := by
  rw [folded_drop]
  constructor
  · rintro ⟨r, h⟩
    rw [← h, List.append_assoc, List.drop_left]
    exact ⟨List.prefix_append .., List.prefix_append ..⟩
  · rintro ⟨⟨r, h⟩, hm⟩
    rw [← h, List.drop_left] at hm
    rw [← h]
    exact (List.prefix_append_right_inj n).2 hm

end Text

namespace Pattern

/-- The names that a pattern stands for, the preferred ones first, if it is made of sets
inside ASCII, sequences and alternatives. -/
def names? : Pattern → Option (List Text)
  | empty => some [[]]
  | one set => set.letters?.map fun cs => cs.map ([·])
  | seq p q => p.names?.bind fun ns => q.names?.map fun ms => ns.flatMap fun n => ms.map (n ++ ·)
  | alt p q => p.names?.bind fun ns => q.names?.map (ns ++ ·)
  | atStart | atEnd | group _ _ | plus _ _ | star _ _ => none

/-- The preferred trail on from behind a name, if the name stands in front of a text. -/
def take? (b : Bool) (s : Text) (k : Onward) (name : Text) : Option Trail :=
  if name <+: Text.folded s then
    (k (b && name.isEmpty) (s.drop name.length)).map (Trail.ofText (s.take name.length) ++ ·)
  else none

theorem take?_nil (b : Bool) (s : Text) (k : Onward) : take? b s k [] = k b s := by
  simp [take?, Trail.ofText]

/-- A name that is put together is taken part by part. -/
theorem take?_append (b : Bool) (s : Text) (k : Onward) (n m : Text) :
    take? b s k (n ++ m) = take? b s (fun b r => take? b r k m) n := by
  have isEmpty_append : (n ++ m).isEmpty = (n.isEmpty && m.isEmpty) := by cases n <;> rfl
  unfold take?
  dsimp only
  by_cases hn : n <+: Text.folded s
  · by_cases hm : m <+: Text.folded (s.drop n.length)
    · rw [if_pos (Text.append_isPrefix_folded_iff.2 ⟨hn, hm⟩), if_pos hn, if_pos hm, Option.map_map,
        List.length_append, ← List.drop_drop, List.take_add, isEmpty_append, Bool.and_assoc]
      congr 1
      funext t
      simp [Trail.ofText]
    · rw [if_neg (fun h => hm (Text.append_isPrefix_folded_iff.1 h).2), if_pos hn, if_neg hm]
      rfl
  · rw [if_neg (fun h => hn (Text.append_isPrefix_folded_iff.1 h).1), if_neg hn]

theorem take?_findSome? (b : Bool) (s : Text) (n : Text) (ms : List Text)
    (f : Text → Onward) : (take? b s (fun b r => ms.findSome? fun m => f m b r) n) =
      ms.findSome? fun m => take? b s (f m) n := by
  unfold take?
  split
  · rw [List.map_findSome?]
    rfl
  · exact (List.findSome?_eq_none_iff.2 fun _ _ => rfl).symm

/-- **A pattern that lists names takes the first of them from which one can go on.** -/
theorem through_names {p : Pattern} {ns : List Text} (h : p.names? = some ns) (b : Bool) (s : Text)
    (k : Onward) : p.through b s k = ns.findSome? (take? b s k) := by
  induction p generalizing ns b s k with
  | empty =>
    cases h
    rw [List.findSome?_singleton, take?_nil]
    rfl
  | one set =>
    obtain ⟨cs, hcs, rfl⟩ := Option.map_eq_some_iff.1 h
    rw [List.findSome?_map]
    cases s with
    | nil =>
      refine (List.findSome?_eq_none_iff.2 fun d _ => ?_).symm
      have short : ¬[d] <+: Text.folded [] := fun h => List.cons_ne_nil _ _ (List.prefix_nil.1 h)
      rw [Function.comp, take?, if_neg short]
    | cons c s =>
      have letter : (fun d => take? b (c :: s) k [d]) =
          fun d => if d = foldCase c then (k false s).map (Mark.char c :: ·) else none := by
        funext d
        simp [take?, Text.folded, Trail.ofText]
      rw [through_one, CharSet.has_eq_of_letters? hcs]
      change _ = cs.findSome? fun d => take? b (c :: s) k [d]
      rw [letter, findSome?_ite]
      simp
  | atStart | atEnd | group | plus | star => cases h
  | seq p q hp hq =>
    obtain ⟨ns, hns, h⟩ := Option.bind_eq_some_iff.1 h
    obtain ⟨ms, hms, rfl⟩ := Option.map_eq_some_iff.1 h
    rw [through_seq, hp hns, findSome?_flatMap]
    congr 1
    funext n
    rw [List.findSome?_map]
    simp only [hq hms, take?_findSome?]
    congr 1
    funext m
    exact (take?_append b s k n m).symm
  | alt p q hp hq =>
    obtain ⟨ns, hns, h⟩ := Option.bind_eq_some_iff.1 h
    obtain ⟨ms, hms, rfl⟩ := Option.map_eq_some_iff.1 h
    rw [through_alt, hp hns, hq hms, List.findSome?_append]

/-- The name of a list that is read at the front of a text: the first that stands there. -/
def nameAt? (ns : List Text) (s : Text) : Option Text :=
  ns.find? fun n => n <+: Text.folded s

theorem nameAt?_eq_some {ns : List Text} {s n : Text} (h : nameAt? ns s = some n) :
    n ∈ ns ∧ n <+: Text.folded s :=
  ⟨List.mem_of_find?_eq_some h, by simpa using List.find?_some h⟩

/-- No name is read exactly where no name of the list stands. -/
theorem nameAt?_eq_none_iff {ns : List Text} {s : Text} :
    nameAt? ns s = none ↔ ∀ t, t <+: s → Text.folded t ∉ ns := by
  rw [nameAt?, List.find?_eq_none]
  constructor
  · rintro h t ⟨r, rfl⟩ ht
    refine h _ ht (decide_eq_true ?_)
    rw [Text.folded_append]
    exact List.prefix_append ..
  · intro h n hn here
    have stands : n <+: Text.folded s := of_decide_eq_true here
    refine h (s.take n.length) (List.take_prefix ..) ?_
    rwa [Text.folded_take, ← List.prefix_iff_eq_take.1 stands]

/-- A name is read in front of a longer one if no name before it gets in its way. -/
theorem nameAt?_of_longer {ns before after : List Text} {n m s : Text}
    (listed : ns = before ++ n :: after) (start : n <+: m) (stands : m <+: Text.folded s)
    (apart : ∀ a ∈ before, ¬a <+: m ∧ ¬m <+: a) : nameAt? ns s = some n := by
  refine List.find?_eq_some_iff_append.2
    ⟨decide_eq_true (start.trans stands), before, after, listed, fun a ha => ?_⟩
  rw [Bool.not_eq_true', decide_eq_false_iff_not]
  intro earlier
  obtain ⟨short, long⟩ := apart a ha
  rcases Nat.le_total a.length m.length with h | h
  · exact short (List.prefix_of_prefix_length_le earlier stands h)
  · exact long (List.prefix_of_prefix_length_le stands earlier h)

/-- The names that are listed behind a shorter one they start with, each behind that one. -/
def hidden : List Text → List (Text × Text)
  | [] => []
  | n :: ns => ((ns.filter fun m => n <+: m && n.length < m.length).map (n, ·)) ++ hidden ns

/-- **A name that is longer than the one that is read is hidden by it.** -/
theorem mem_hidden_of_nameAt? {ns : List Text} {s n m : Text} (h : nameAt? ns s = some n)
    (hm : m ∈ ns) (stands : m <+: Text.folded s) (longer : n.length < m.length) :
    (n, m) ∈ hidden ns := by
  induction ns with
  | nil => cases hm
  | cons a ns ih =>
    rw [hidden, List.mem_append]
    rw [nameAt?, List.find?_cons] at h
    by_cases ha : a <+: Text.folded s
    · rw [decide_eq_true ha] at h
      cases h
      have later : m ∈ ns := by
        refine (List.mem_cons.1 hm).resolve_left ?_
        rintro rfl
        exact Nat.lt_irrefl _ longer
      have start := List.prefix_of_prefix_length_le ha stands (Nat.le_of_lt longer)
      exact .inl (List.mem_map.2 ⟨m, List.mem_filter.2 ⟨later, by simp [start, longer]⟩, rfl⟩)
    · rw [decide_eq_false ha] at h
      have later : m ∈ ns := by
        refine (List.mem_cons.1 hm).resolve_left ?_
        rintro rfl
        exact ha stands
      exact .inr (ih h later)

/-- A search ends with the name. -/
theorem through_names_accept {p : Pattern} {ns : List Text} (h : p.names? = some ns) (b : Bool)
    (s : Text) : p.through b s accept =
      (nameAt? ns s).map fun n => Trail.ofText (s.take n.length) := by
  rw [through_names h, nameAt?]
  clear h
  induction ns with
  | nil => rfl
  | cons n ns ih =>
    rw [List.findSome?_cons, List.find?_cons, ih]
    by_cases hn : n <+: Text.folded s
    · simp [take?, hn, accept]
    · simp [take?, hn]

/-- **A name is looked for at the places of a text from left to right.** -/
theorem find?_names {p : Pattern} {ns : List Text} (h : p.names? = some ns) {s : Text} {i : Nat}
    {n : Text} (here : nameAt? ns (s.drop i) = some n)
    (earlier : ∀ k < i, nameAt? ns (s.drop k) = none) :
    ∃ hit, p.find? s = some hit ∧ hit.before = s.take i ∧
      hit.taken = (s.drop i).take n.length ∧ hit.after = (s.drop i).drop n.length := by
  have front : ∀ b, p.through b (s.drop i) accept =
      some (Trail.ofText ((s.drop i).take n.length)) := by
    intro b
    rw [through_names_accept h, here]
    rfl
  have none_before : ∀ b, ∀ k < i, p.through b (s.drop k) accept = none := by
    intro b k hk
    rw [through_names_accept h, earlier k hk]
    rfl
  refine ⟨_, findFrom_of_first front none_before true, rfl, Trail.taken_ofText _, ?_⟩
  have fits : n.length ≤ (s.drop i).length := by
    simpa [Text.length_folded] using (nameAt?_eq_some here).2.length_le
  dsimp only
  rw [Trail.taken_ofText, List.length_take, Nat.min_eq_left fits]

/-- **Either there is no name in a text, or a search finds the first,** and at its place
the name of the list that is read there. -/
theorem find?_names_cases {p : Pattern} {ns : List Text} (h : p.names? = some ns) (s : Text) :
    (p.find? s = none ∧ ∀ k, nameAt? ns (s.drop k) = none) ∨
      ∃ hit, p.find? s = some hit ∧
        nameAt? ns (hit.taken ++ hit.after) = some (Text.folded hit.taken) ∧
          ∀ k < hit.before.length, nameAt? ns (s.drop k) = none := by
  by_cases stands : ∃ k, nameAt? ns (s.drop k) ≠ none
  · right
    obtain ⟨n, here⟩ := Option.ne_none_iff_exists'.1 (Nat.find_spec stands)
    have earlier : ∀ k < Nat.find stands, nameAt? ns (s.drop k) = none := fun k hk =>
      not_not.1 (Nat.find_min stands hk)
    obtain ⟨hit, found, before, taken, after⟩ := find?_names h here earlier
    have spelled : Text.folded hit.taken = n := by
      rw [taken, Text.folded_take, ← List.prefix_iff_eq_take.1 (nameAt?_eq_some here).2]
    refine ⟨hit, found, ?_, fun k hk => earlier k ?_⟩
    · rw [spelled, taken, after, List.take_append_drop, here]
    · rw [before, List.length_take] at hk
      omega
  · left
    simp only [not_exists, not_not] at stands
    refine ⟨findFrom_eq_none (fun b k => ?_) true, stands⟩
    rw [through_names_accept h, stands]
    rfl

end Pattern
end AsmListing
