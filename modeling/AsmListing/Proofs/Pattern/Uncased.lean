/-
# Characters without case

A character that is no ASCII letter, and that no run of the folding holds or leads to, has
no variant but itself (`mem_caseVariants_iff_eq`).  A set that names such characters by
ranges has just what lies in its ranges.  The blanks are of this kind, so the set of the
blanks is the set of the blanks whatever case does (`CharSet.has_blank`).
-/

import AsmListing.Proofs.Pattern.Narrow
import AsmListing.Proofs.Text.Case

namespace AsmListing

namespace CaseFolding

/-- Whether no run holds this number or leads to it. -/
def isFixed (n : Nat) : Bool :=
  runs.all fun r => !r.has n && !r.has (n - r.shift).toNat

/-- Whether a character has no case. -/
def isUncased (c : Char) : Bool :=
  !c.isAlpha && isFixed c.toNat

theorem not_has_of_isFixed {n : Nat} (h : isFixed n = true) {r : Run} (hr : r ∈ runs) :
    r.has n = false ∧ r.has (n - r.shift).toNat = false := by
  simpa using List.all_eq_true.1 h r hr

theorem foldNumber_of_isFixed {n : Nat} (h : isFixed n = true) : foldNumber n = n := by
  have unheld : runs.find? (·.has n) = none :=
    List.find?_eq_none.2 fun r hr => by simp [(not_has_of_isFixed h hr).1]
  rw [foldNumber, unheld]

/-- The numbers of a run are numbers of characters. -/
theorem Run.toNat_ofNat_of_has {r : Run} (hr : r ∈ runs) {n : Nat} (h : r.has n = true) :
    (Char.ofNat n).toNat = n := by
  have wide := staysWide_of_mem_runs hr
  simp only [staysWide, has, Bool.and_eq_true, Bool.or_eq_true, decide_eq_true_eq] at wide h
  obtain ⟨⟨least, most⟩, -⟩ := h
  exact toNat_ofNat_of_valid (by omega)

/-- What a run leads to is the number of a character, from which the shift leads back. -/
theorem Run.shift_back {r : Run} (hr : r ∈ runs) {n : Nat} (h : r.has n = true) :
    (((Char.ofNat (n + r.shift).toNat).toNat : Int) - r.shift).toNat = n := by
  have wide := staysWide_of_mem_runs hr
  simp only [staysWide, has, Bool.and_eq_true, Bool.or_eq_true, decide_eq_true_eq] at wide h
  obtain ⟨⟨least, most⟩, -⟩ := h
  have letters : 's'.toNat = 115 ∧ 'k'.toNat = 107 := by decide
  rw [toNat_ofNat_of_valid (by omega)]
  omega

/-- **Outside ASCII, no other character has a character without case as a variant.** -/
theorem eq_of_mem_wideVariants {c d : Char} (hd : isUncased d = true)
    (h : d ∈ wideVariants c) : d = c := by
  obtain ⟨letterless, fixed⟩ : d.isAlpha = false ∧ isFixed d.toNat = true := by
    simpa [isUncased] using hd
  simp only [wideVariants, List.mem_append, List.mem_cons, List.mem_map, List.mem_filterMap] at h
  rcases h with (folded | letter) | ⟨m, ⟨r, hr, source⟩, rfl⟩
  · rw [foldNumber] at folded
    cases hf : runs.find? (·.has c.toNat) with
    | none =>
      rw [folded, hf]
      exact Char.ofNat_toNat c
    | some r =>
      have held : r.has c.toNat = true := by simpa using List.find?_some hf
      have member := List.mem_of_find?_eq_some hf
      rw [hf] at folded
      have unheld := (not_has_of_isFixed fixed member).2
      rw [folded, Run.shift_back member held, held] at unheld
      cases unheld
  · split at letter
    · rw [List.mem_singleton.1 letter] at letterless
      cases letterless
    · split at letter
      · rw [List.mem_singleton.1 letter] at letterless
        cases letterless
      · cases letter
  · unfold Run.source? at source
    dsimp only at source
    split at source
    · next held =>
      cases source
      have held := (Bool.and_eq_true_iff.1 held).1
      have unheld := (not_has_of_isFixed fixed hr).1
      rw [Run.toNat_ofNat_of_has hr held, held] at unheld
      cases unheld
    · cases source

end CaseFolding

open CaseFolding

/-- **A character without case is a variant of itself alone.** -/
theorem mem_caseVariants_iff_eq {c d : Char} (hd : isUncased d = true) :
    d ∈ caseVariants c ↔ d = c := by
  have ascii : ∀ n : Fin 128, ((caseVariants (Char.ofNat n)).all fun e =>
      e = Char.ofNat n || !isUncased e) = true := by decide +kernel
  have self : ∀ n : Fin 128, Char.ofNat n ∈ caseVariants (Char.ofNat n) := by decide +kernel
  by_cases hc : c.toNat < 128
  · constructor
    · intro h
      have all := ascii ⟨c.toNat, hc⟩
      rw [Char.ofNat_toNat] at all
      simpa [hd] using List.all_eq_true.1 all d h
    · rintro rfl
      simpa using self ⟨d.toNat, hc⟩
  · rw [caseVariants, if_neg hc]
    constructor
    · exact eq_of_mem_wideVariants hd
    · rintro rfl
      have fixed : isFixed d.toNat = true := (Bool.and_eq_true_iff.1 hd).2
      rw [wideVariants, foldNumber_of_isFixed fixed, Char.ofNat_toNat]
      exact List.mem_append_left _ (List.mem_cons_self ..)

/-- So what holds of the variants of a character holds of it, where it holds only of
characters without case. -/
theorem any_caseVariants {f : Char → Bool} (hf : ∀ d, f d = true → isUncased d = true) (c : Char) :
    (caseVariants c).any f = f c := by
  rw [Bool.eq_iff_iff, List.any_eq_true]
  constructor
  · rintro ⟨d, hd, holds⟩
    rwa [← (mem_caseVariants_iff_eq (hf d holds)).1 hd]
  · exact fun holds => ⟨c, (mem_caseVariants_iff_eq (hf c holds)).2 rfl, holds⟩

namespace CharSet

theorem has_unions (sets : List CharSet) (c : Char) : (unions sets).has c = sets.any (·.has c) := by
  have gathered : ∀ s, (sets.foldl union s).has c = (s.has c || sets.any (·.has c)) := by
    induction sets with
    | nil => simp
    | cons t sets ih => intro s; simp [ih, has, Bool.or_assoc]
  exact gathered none

/-- The set of a character without case has this character alone. -/
theorem has_single_of_isUncased {a : Char} (ha : isUncased a = true) (c : Char) :
    (single a).has c = decide (c = a) := by
  have lies : ∀ d : Char, (a ≤ d && d ≤ a) = decide (d = a) := by
    intro d
    rw [← Bool.decide_and, decide_eq_decide, and_comm]
    exact ⟨fun h => Char.le_antisymm h.1 h.2, by rintro rfl; simp⟩
  simp only [single, has, lies]
  refine any_caseVariants (f := fun d => decide (d = a)) ?_ c
  rintro d hd
  rwa [of_decide_eq_true hd]

/-- The numbers of the blanks. -/
def blankNumbers : List Nat :=
  [9, 10, 11, 12, 13, 0x20, 0x85, 0xA0, 0x1680, 0x2000, 0x2001, 0x2002, 0x2003, 0x2004, 0x2005,
    0x2006, 0x2007, 0x2008, 0x2009, 0x200A, 0x2028, 0x2029, 0x202F, 0x205F, 0x3000]

theorem isUncased_of_isBlank {c : Char} (h : isBlank c = true) : isUncased c = true := by
  have listed : c.toNat ∈ blankNumbers := by
    simp only [isBlank, Bool.or_eq_true, Bool.and_eq_true, decide_eq_true_eq] at h
    simp only [blankNumbers, List.mem_cons, List.not_mem_nil, or_false]
    omega
  have all : blankNumbers.all (fun n => isUncased (Char.ofNat n)) = true := by decide +kernel
  simpa using List.all_eq_true.1 all _ listed

/-- **The set of the blanks has the blanks.** -/
theorem has_blank (c : Char) : blank.has c = isBlank c := by
  have le_iff : ∀ a b : Char, a ≤ b ↔ a.toNat ≤ b.toNat := fun _ _ => UInt32.le_iff_toNat_le
  rw [← any_caseVariants (fun _ => isUncased_of_isBlank) c, Bool.eq_iff_iff]
  simp only [blank, single, has_unions, List.any_cons, List.any_nil, has, Bool.or_false,
    Bool.or_eq_true, List.any_eq_true, Bool.and_eq_true, decide_eq_true_eq, le_iff, isBlank,
    ← exists_or, ← and_or_left]
  refine exists_congr fun d => and_congr_right fun _ => ?_
  simp only [Char.reduceToNat]
  omega

end CharSet
end AsmListing
