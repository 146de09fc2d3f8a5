/-
# Names of groups

A way through a pattern enters and leaves groups of the pattern only
(`Leads.mem_groupNames`).  While a written pattern is read, all groups have names that were
given, and each name was given once (`Draft.NamedOnce.step`, `Draft.NamedOnce.run`).  So the
groups of the pattern have the names that its text gives, and these are distinct
(`named_of_ofText`).

`Gives s names` says which names a text gives.  They are put together piece by piece
(`Gives.append`), so that the names in a pattern that is pasted into a larger one are among
those of the larger one, and differ from all others there.
-/

import AsmListing.Pattern.Through
import AsmListing.Proofs.Pattern.Pasting

namespace AsmListing
namespace Pattern

/-- The names of the groups in a pattern. -/
def groupNames : Pattern → List Text
  | empty | one _ | atStart | atEnd => []
  | seq p q | alt p q => p.groupNames ++ q.groupNames
  | group name p => name :: p.groupNames
  | plus p _ | star p _ => p.groupNames

/-- **A way through a pattern enters and leaves groups of the pattern only.** -/
theorem Leads.mem_groupNames {p : Pattern} {b b' : Bool} {s s' : Text} {t : Trail}
    (h : Leads p b s t b' s') {name : Text} (hn : Mark.enter name ∈ t ∨ Mark.leave name ∈ t) :
    name ∈ p.groupNames := by
  induction h with
  | empty | one | atStart | atEnd | starNone => simp at hn
  | seq _ _ hp hq =>
    rw [List.mem_append, List.mem_append, or_or_or_comm] at hn
    exact List.mem_append.2 (hn.imp hp hq)
  | altLeft _ _ ih => exact List.mem_append_left _ (ih hn)
  | altRight _ _ ih => exact List.mem_append_right _ (ih hn)
  | group n _ ih =>
    rw [groupNames, List.mem_cons]
    by_cases h : name = n
    · exact .inl h
    · exact .inr (ih (by simpa [h] using hn))
  | plusLast _ _ ih | starSome _ ih => exact ih hn
  | plusMore _ _ _ hp hq =>
    rw [List.mem_append, List.mem_append, or_or_or_comm] at hn
    exact hn.elim hp hq

/-! ### Patterns that are put together -/

theorem groupNames_sequence (ps : List Pattern) :
    (sequence ps).groupNames = ps.flatMap groupNames := by
  induction ps with
  | nil => rfl
  | cons p ps ih =>
    cases ps with
    | nil => exact (List.append_nil _).symm
    | cons q qs => exact congrArg (p.groupNames ++ ·) ih

theorem groupNames_choice (ps : List Pattern) :
    (choice ps).groupNames = ps.flatMap groupNames := by
  induction ps with
  | nil => rfl
  | cons p ps ih =>
    cases ps with
    | nil => exact (List.append_nil _).symm
    | cons q qs => exact congrArg (p.groupNames ++ ·) ih

theorem groupNames_optional (p : Pattern) (eager : Bool) :
    (optional p eager).groupNames = p.groupNames := by
  cases eager with
  | false => rfl
  | true => exact List.append_nil _

theorem groupNames_upTo (p : Pattern) (eager : Bool) (n : Nat) :
    (p.upTo eager n).groupNames ⊆ p.groupNames := by
  fun_induction upTo p eager n with
  | case1 => exact List.nil_subset _
  | case2 => rw [groupNames_optional]; exact List.Subset.refl _
  | case3 n _ ih =>
    rw [groupNames_optional]
    exact List.append_subset.2 ⟨List.Subset.refl _, ih⟩

/-- A repetition has no groups of its own. -/
theorem groupNames_times (p : Pattern) (r : Repetition) :
    (p.times r).groupNames ⊆ p.groupNames := by
  have rounds : ∀ n (qs : List Pattern), (∀ q ∈ qs, q.groupNames ⊆ p.groupNames) →
      (sequence (List.replicate n p ++ qs)).groupNames ⊆ p.groupNames := by
    intro n qs hq name hn
    rw [groupNames_sequence, List.mem_flatMap] at hn
    obtain ⟨q, hqs, hn⟩ := hn
    rcases List.mem_append.1 hqs with h | h
    · rwa [List.eq_of_mem_replicate h] at hn
    · exact hq q h hn
  -- the forms `p*`, `p{n,}`, `p{n}` and `p{n,m}`
  unfold times
  split
  · unfold repeated
    split
    · rw [groupNames_optional]
      exact List.Subset.refl _
    · exact List.Subset.refl _
  · exact rounds _ _ (by simp [groupNames])
  · split
    · simpa using rounds _ [] (by simp)
    · exact rounds _ _ (by simpa using groupNames_upTo p _ _)

theorem groupNames_named (name : Option Text) (p : Pattern) :
    (named name p).groupNames = name.toList ++ p.groupNames := by
  cases name <;> rfl

namespace OpenGroup

/-- The names of the groups in a group of which only a part is read. -/
def groupNames (g : OpenGroup) : List Text :=
  (g.items ++ g.alternatives).flatMap Pattern.groupNames

theorem groupNames_add (g : OpenGroup) (p : Pattern) :
    (g.add p).groupNames = p.groupNames ++ g.groupNames := rfl

theorem mem_groupNames_next {g : OpenGroup} {name : Text} :
    name ∈ g.next.groupNames ↔ name ∈ g.groupNames := by
  simp [next, groupNames, groupNames_sequence, or_comm]

theorem mem_groupNames_close {g : OpenGroup} {name : Text} :
    name ∈ g.close.groupNames ↔ name ∈ g.groupNames := by
  rw [close, groupNames_choice, ← mem_groupNames_next]
  simp [next, groupNames, or_comm]

theorem groupNames_of_repeatLast {g g' : OpenGroup} {r : Repetition}
    (h : g.repeatLast r = .ok g') : g'.groupNames ⊆ g.groupNames := by
  unfold repeatLast at h
  split at h
  · cases h
  · next p items hi =>
    cases h
    intro name hn
    simp only [groupNames, hi, List.cons_append, List.flatMap_cons, List.mem_append] at hn ⊢
    exact hn.imp (fun h => groupNames_times p r h) id

end OpenGroup

/-! ### Names in lexemes -/

namespace Lexeme

/-- The name that a lexeme gives, if it gives one. -/
def name? : Lexeme → Option Text
  | opening name => name
  | _ => none

/-- A repetition is no item. -/
theorem repetition_ne_item (least : Nat) (most : Option Nat) (s : Text) (p : Pattern) :
    (repetition least most s).1 ≠ item p := by
  unfold repetition
  split <;> exact Lexeme.noConfusion

/-- The items in a written pattern are single characters and positions. -/
theorem groupNames_of_first {c : Char} {s : Text} {p : Pattern} {n : Nat}
    (h : first c s = .ok (item p, n)) : p.groupNames = [] := by
  -- parentheses, bars and repetitions make no item, in the order in which they are told apart
  unfold first at h
  split at h
  · unfold groupOpening at h
    split at h
    · cases h
    · obtain ⟨_, -, hp⟩ := Certain.map_eq_ok_iff.1 h
      cases hp
    · obtain ⟨_, -, hp⟩ := Certain.map_eq_ok_iff.1 h
      cases hp
    · cases h
    · cases h
  · cases h
  · cases h
  · exact (repetition_ne_item _ _ _ _ (congrArg Prod.fst (Except.ok.inj h))).elim
  · exact (repetition_ne_item _ _ _ _ (congrArg Prod.fst (Except.ok.inj h))).elim
  · exact (repetition_ne_item _ _ _ _ (congrArg Prod.fst (Except.ok.inj h))).elim
  · obtain ⟨_, _, ⟨-, hp⟩ | ⟨-, hp⟩ | ⟨_, _, -, -, -, -, hp⟩⟩ := countedRepetition_cases h <;>
      exact (repetition_ne_item _ _ _ _ (congrArg Prod.fst hp).symm).elim
  · obtain ⟨_, -, hp⟩ := Certain.map_eq_ok_iff.1 h
    cases hp
    rfl
  · cases h; rfl
  · cases h; rfl
  · cases h; rfl
  · obtain ⟨_, -, hp⟩ := Certain.map_eq_ok_iff.1 h
    cases hp
    rfl
  · cases h; rfl

theorem groupNames_of_mem {skip : Nat} {s : Text} {ls : List Lexeme} (h : ofText skip s = .ok ls)
    {p : Pattern} (hp : item p ∈ ls) : p.groupNames = [] := by
  fun_induction ofText skip s generalizing ls with
  | case1 skip => cases h; cases hp
  | case2 skip c s ih => exact ih h hp
  | case3 => cases h
  | case4 c s l n hfirst ih =>
    obtain ⟨ms, hms, rfl⟩ := Certain.map_eq_ok_iff.1 h
    rcases List.mem_cons.1 hp with rfl | hp
    · exact groupNames_of_first hfirst
    · exact ih hms hp

end Lexeme

namespace Draft

/-- The names of the groups in what has been read. -/
def groupNames (d : Draft) : List Text :=
  d.current.groupNames ++ d.outer.flatMap fun (name, g) => name.toList ++ g.groupNames

/-- All groups have names that were given, each of them once. -/
structure NamedOnce (d : Draft) : Prop where
  given : d.groupNames ⊆ d.names
  once : d.names.Nodup

theorem NamedOnce.blank : blank.NamedOnce :=
  ⟨List.nil_subset _, List.nodup_nil⟩

/-- **A lexeme gives its name, which has to be new.** -/
theorem NamedOnce.step {d e : Draft} (hd : d.NamedOnce) {l : Lexeme}
    (hl : ∀ p, l = .item p → p.groupNames = []) (h : d.step l = .ok e) :
    e.NamedOnce ∧ e.names = l.name?.toList ++ d.names := by
  obtain ⟨given, once⟩ := hd
  cases l with
  | item p =>
    cases h
    refine ⟨⟨fun name hn => given ?_, once⟩, rfl⟩
    simpa [groupNames, OpenGroup.groupNames, OpenGroup.add, hl p rfl] using hn
  | bar =>
    cases h
    refine ⟨⟨fun name hn => given ?_, once⟩, rfl⟩
    rw [groupNames, List.mem_append, OpenGroup.mem_groupNames_next] at hn
    exact List.mem_append.2 hn
  | repeated r =>
    obtain ⟨g, hg, rfl⟩ := Certain.map_eq_ok_iff.1 h
    refine ⟨⟨fun name hn => given ?_, once⟩, rfl⟩
    rw [groupNames, List.mem_append] at hn
    exact List.mem_append.2 (hn.imp (fun h => OpenGroup.groupNames_of_repeatLast hg h) id)
  | opening name =>
    have opened := eq_of_step_opening h
    have new : (name.toList ++ d.names).Nodup := by
      cases name with
      | none => exact once
      | some name =>
        rw [Draft.step] at h
        split at h
        · cases h
        · next new => exact List.nodup_cons.2 ⟨new, once⟩
    subst opened
    refine ⟨⟨?_, new⟩, rfl⟩
    rw [groupNames, List.flatMap_cons, List.append_assoc]
    exact List.append_subset.2 ⟨List.nil_subset _, List.append_subset.2
      ⟨List.subset_append_left .., fun _ h => List.mem_append_right _ (given h)⟩⟩
  | closing =>
    obtain ⟨current, outer, names⟩ := d
    cases outer with
    | nil => cases h
    | cons around outer =>
      obtain ⟨name, g⟩ := around
      rw [step_closing] at h
      cases h
      refine ⟨⟨fun n hn => given ?_, once⟩, rfl⟩
      simp only [groupNames, OpenGroup.groupNames_add, groupNames_named, List.flatMap_cons,
        List.mem_append, OpenGroup.mem_groupNames_close] at hn ⊢
      tauto

/-- **So do the lexemes of a text.** -/
theorem NamedOnce.run {d e : Draft} (hd : d.NamedOnce) {ls : List Lexeme}
    (hl : ∀ p, .item p ∈ ls → p.groupNames = []) (h : ls.foldlM Draft.step d = .ok e) :
    e.NamedOnce ∧ e.names = (ls.filterMap Lexeme.name?).reverse ++ d.names := by
  induction ls generalizing d with
  | nil => cases h; exact ⟨hd, rfl⟩
  | cons l ls ih =>
    rw [List.foldlM_cons] at h
    obtain ⟨d₁, first, h⟩ := Certain.bind_eq_ok_iff.1 h
    obtain ⟨kept, names⟩ :=
      hd.step (fun p hp => hl p (by rw [hp]; exact List.mem_cons_self ..)) first
    obtain ⟨kept, later⟩ := ih kept (fun p hp => hl p (List.mem_cons_of_mem _ hp)) h
    refine ⟨kept, ?_⟩
    rw [later, names]
    cases hn : l.name? <;> simp [hn]

end Draft

/-- The names that a text gives to groups, in the order in which they are written. -/
def Gives (s : Text) (names : List Text) : Prop :=
  ∃ ls, Lexeme.ofText 0 s = .ok ls ∧ ls.filterMap Lexeme.name? = names

theorem Gives.append {s t : Text} {xs ys : List Text} (hs : Gives s xs) (ht : Gives t ys)
    (hq : t.head? ≠ some '?') : Gives (s ++ t) (xs ++ ys) := by
  obtain ⟨ls, hl, rfl⟩ := hs
  obtain ⟨ms, hm, rfl⟩ := ht
  exact ⟨ls ++ ms, by rw [Lexeme.ofText_append hl hq, hm]; rfl, List.filterMap_append ..⟩

/-- **The groups of a written pattern have the names that its text gives, each of them once.** -/
theorem named_of_ofText {s : Text} {p : Pattern} (h : ofText s = .ok p) :
    ∃ names, Gives s names ∧ names.Nodup ∧ p.groupNames ⊆ names := by
  obtain ⟨ls, hl, hls⟩ := ofText_eq_ok_iff.1 h
  obtain ⟨d, hd, ho, rfl⟩ := ofLexemes_eq_ok_iff.1 hls
  obtain ⟨kept, names⟩ := Draft.NamedOnce.blank.run (fun p => Lexeme.groupNames_of_mem hl) hd
  rw [Draft.blank, List.append_nil] at names
  refine ⟨_, ⟨ls, hl, rfl⟩, ?_, fun name hn => ?_⟩
  · exact (List.reverse_perm _).nodup_iff.1 (names ▸ kept.once)
  · rw [← List.mem_reverse, ← names]
    exact kept.given (List.mem_append_left _ (OpenGroup.mem_groupNames_close.1 hn))

/-- A text gives its names only. -/
theorem Gives.unique {s : Text} {xs ys : List Text} (hx : Gives s xs) (hy : Gives s ys) :
    xs = ys := by
  obtain ⟨ls, hl, rfl⟩ := hx
  obtain ⟨ms, hm, rfl⟩ := hy
  rw [Except.ok.inj (hl.symm.trans hm)]

end Pattern
end AsmListing
