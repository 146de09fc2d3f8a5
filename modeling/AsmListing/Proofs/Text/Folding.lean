/-
# Folded texts

Texts that differ in case only have the same folding, in which every character is replaced
by the one that it folds to (`foldCase`).  Which ASCII characters are variants of a
character is told by what it folds to (`mem_caseVariants_iff`).  So the Kelvin sign and the
long s count as `k` and `s`, and no other character outside ASCII counts as one inside.
-/

import AsmListing.Proofs.Pattern.Narrow
import AsmListing.Proofs.Text.Case

namespace AsmListing

/-- The character that a character folds to: in ASCII its lower case, and else what the
runs of the folding say. -/
def foldCase (c : Char) : Char :=
  if c.toNat < 128 then c.toLower else Char.ofNat (CaseFolding.foldNumber c.toNat)

/-- What a character outside ASCII folds to is outside ASCII, or one of two letters. -/
theorem foldCase_wide {c : Char} (hc : ¬c.toNat < 128) :
    128 ≤ (foldCase c).toNat ∨ CaseFolding.foldNumber c.toNat = 's'.toNat ∨
      CaseFolding.foldNumber c.toNat = 'k'.toNat := by
  rw [foldCase, if_neg hc, CaseFolding.foldNumber]
  cases hf : CaseFolding.runs.find? (·.has c.toNat) with
  | none =>
    left
    simpa using hc
  | some r =>
    have hn : r.has c.toNat = true := by simpa using List.find?_some hf
    exact CaseFolding.Run.fold_wide (List.mem_of_find?_eq_some hf) hn

theorem toNat_toLower_lt {d : Char} (hd : d.toNat < 128) : d.toLower.toNat < 128 := by
  have small : ∀ n : Fin 128, (Char.ofNat n).toLower.toNat < 128 := by decide
  simpa using small ⟨d.toNat, hd⟩

/-- The same for the variants of a character outside ASCII. -/
theorem mem_wideVariants_iff {c d : Char} (hc : ¬c.toNat < 128) (hd : d.toNat < 128) :
    d ∈ CaseFolding.wideVariants c ↔ d.toLower = foldCase c := by
  have sources : ∀ n, d ∉ (CaseFolding.runs.filterMap
      (CaseFolding.Run.source? · n)).map Char.ofNat := by
    intro n h
    obtain ⟨m, hm, rfl⟩ := List.mem_map.1 h
    obtain ⟨r, hr, hs⟩ := List.mem_filterMap.1 hm
    exact absurd (CaseFolding.Run.source_wide hr hs) (by omega)
  have letters : ∀ n : Fin 128, (Char.ofNat n ∈ ['s', 'S'] ↔ (Char.ofNat n).toLower = 's') ∧
      (Char.ofNat n ∈ ['k', 'K'] ↔ (Char.ofNat n).toLower = 'k') := by decide
  have letter := letters ⟨d.toNat, hd⟩
  simp only [Char.ofNat_toNat] at letter
  have folded := foldCase_wide hc
  rw [foldCase, if_neg hc] at folded ⊢
  unfold CaseFolding.wideVariants
  dsimp only
  generalize CaseFolding.foldNumber c.toNat = n at folded ⊢
  rw [List.mem_append, or_iff_left (sources n)]
  rcases folded with wide | rfl | rfl
  · have hs : n ≠ 's'.toNat := by rintro rfl; exact absurd wide (by decide)
    have hk : n ≠ 'k'.toNat := by rintro rfl; exact absurd wide (by decide)
    have lower := toNat_toLower_lt hd
    rw [if_neg hs, if_neg hk, List.mem_singleton]
    constructor <;> intro h <;> rw [← h] at wide <;> omega
  · exact letter.1
  · exact letter.2

/-- **Which ASCII characters are variants of a character is told by what it folds to.** -/
theorem mem_caseVariants_iff {c d : Char} (hd : d.toNat < 128) :
    d ∈ caseVariants c ↔ d.toLower = foldCase c := by
  by_cases hc : c.toNat < 128
  · have same : ∀ n : Fin 128, ((caseVariants (Char.ofNat n)).all fun e =>
        128 ≤ e.toNat || e.toLower = (Char.ofNat n).toLower) = true := by decide +kernel
    have self : ∀ n : Fin 128, Char.ofNat n ∈ caseVariants (Char.ofNat n) := by decide +kernel
    rw [foldCase, if_pos hc]
    constructor
    · intro h
      have all := same ⟨c.toNat, hc⟩
      rw [Char.ofNat_toNat] at all
      have lower := List.all_eq_true.1 all d h
      rw [Bool.or_eq_true, decide_eq_true_eq, decide_eq_true_eq] at lower
      exact lower.resolve_left (by omega)
    · intro h
      rw [← caseVariants_toLower hc, ← h, caseVariants_toLower hd]
      simpa using self ⟨d.toNat, hd⟩
  · rw [caseVariants, if_neg hc, mem_wideVariants_iff hc hd]

namespace Text

/-- The text with every character folded. -/
def folded (s : Text) : Text :=
  s.map foldCase

theorem length_folded (s : Text) : (folded s).length = s.length :=
  List.length_map ..

theorem folded_append (s t : Text) : folded (s ++ t) = folded s ++ folded t :=
  List.map_append

theorem folded_drop (n : Nat) (s : Text) : folded (s.drop n) = (folded s).drop n :=
  List.map_drop

theorem folded_take (n : Nat) (s : Text) : folded (s.take n) = (folded s).take n :=
  List.map_take

end Text
end AsmListing
