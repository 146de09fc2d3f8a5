/-
# Sets inside ASCII

Outside ASCII two characters only have variants in ASCII: the Kelvin sign is a variant
of `k`, and the long s one of `s` (`cases_of_mem_wideVariants`).  So a set that is named
by ASCII characters without these two letters has no other members (`has_wide`), and to
know what it has is to know what it has in ASCII (`has_eq_of_ascii`).
-/

import AsmListing.Pattern.CharSet

namespace AsmListing

namespace CaseFolding

/-- Whether a run stays outside ASCII, unless it folds a single character to `k` or
`s`. -/
def Run.staysWide (r : Run) : Bool :=
  128 ≤ r.first && (r.last < 0xD800 || 0xDFFF < r.first && r.last < 0x110000) &&
    (128 ≤ r.first + r.shift &&
        (r.last + r.shift < 0xD800 || 0xDFFF < r.first + r.shift && r.last + r.shift < 0x110000) ||
      r.first = r.last && (r.first + r.shift = 's'.toNat || r.first + r.shift = 'k'.toNat))

theorem staysWide_of_mem_runs {r : Run} (h : r ∈ runs) : r.staysWide = true := by
  have all : runs.all Run.staysWide = true := by decide +kernel
  exact List.all_eq_true.1 all r h

theorem toNat_ofNat_of_valid {n : Nat} (h : n < 0xD800 ∨ 0xDFFF < n ∧ n < 0x110000) :
    (Char.ofNat n).toNat = n := by
  rw [Char.ofNat, dif_pos h]
  rfl

/-- What a run folds to lies outside ASCII, or is `k` or `s`. -/
theorem Run.fold_wide {r : Run} (hr : r ∈ runs) {n : Nat} (hn : r.has n = true) :
    128 ≤ (Char.ofNat (n + r.shift).toNat).toNat ∨ (n + r.shift).toNat = 's'.toNat ∨
      (n + r.shift).toNat = 'k'.toNat := by
  have wide := staysWide_of_mem_runs hr
  simp only [staysWide, has, Bool.and_eq_true, Bool.or_eq_true, decide_eq_true_eq] at wide hn
  obtain ⟨⟨least, most⟩, -⟩ := hn
  rcases wide.2 with ⟨low, high⟩ | ⟨single, letter⟩
  · left
    rw [toNat_ofNat_of_valid (by omega)]
    omega
  · right
    omega

/-- What a run folds from lies outside ASCII. -/
theorem Run.source_wide {r : Run} (hr : r ∈ runs) {n m : Nat} (h : r.source? n = some m) :
    128 ≤ (Char.ofNat m).toNat := by
  have wide := staysWide_of_mem_runs hr
  unfold source? at h
  dsimp only at h
  split at h
  · next hm =>
    cases h
    simp only [staysWide, has, Bool.and_eq_true, Bool.or_eq_true, decide_eq_true_eq] at wide hm
    obtain ⟨⟨⟨least, most⟩, -⟩, -⟩ := hm
    rw [toNat_ofNat_of_valid (by omega)]
    omega
  · cases h

/-- **The variants of a character outside ASCII are outside ASCII,** but for two
letters. -/
theorem cases_of_mem_wideVariants {c d : Char} (hc : ¬c.toNat < 128) (hd : d ∈ wideVariants c) :
    128 ≤ d.toNat ∨ d ∈ ['s', 'S', 'k', 'K'] := by
  have folded : 128 ≤ (Char.ofNat (foldNumber c.toNat)).toNat ∨
      foldNumber c.toNat = 's'.toNat ∨ foldNumber c.toNat = 'k'.toNat := by
    unfold foldNumber
    cases hf : runs.find? (·.has c.toNat) with
    | none =>
      left
      simpa using hc
    | some r =>
      have hn : r.has c.toNat = true := by simpa using List.find?_some hf
      exact Run.fold_wide (List.mem_of_find?_eq_some hf) hn
  simp only [wideVariants, List.mem_append, List.mem_cons, List.mem_map, List.mem_filterMap] at hd
  rcases hd with (rfl | hd) | ⟨m, ⟨r, hr, hm⟩, rfl⟩
  · rcases folded with h | h | h
    · exact .inl h
    · exact .inr (by rw [h]; decide)
    · exact .inr (by rw [h]; decide)
  · right
    split at hd
    · rw [List.mem_singleton.1 hd]; decide
    · split at hd
      · rw [List.mem_singleton.1 hd]; decide
      · cases hd
  · exact .inl (Run.source_wide hr hm)

end CaseFolding

namespace CharSet

/-- Whether a set is named by ranges inside ASCII that hold neither `k` nor `s`. -/
def isNarrow : CharSet → Bool
  | none => true
  | range first last =>
    last.toNat < 128 && ['s', 'S', 'k', 'K'].all fun c => !(first ≤ c && c ≤ last)
  | union s t => s.isNarrow && t.isNarrow
  | compl _ => false

/-- **Such a set has no members outside ASCII.** -/
theorem has_wide {set : CharSet} (h : set.isNarrow = true) {c : Char} (hc : ¬c.toNat < 128) :
    set.has c = false := by
  induction set with
  | none => rfl
  | range first last =>
    rw [isNarrow, Bool.and_eq_true, List.all_eq_true, decide_eq_true_eq] at h
    obtain ⟨narrow, letters⟩ := h
    rw [has, List.any_eq_false]
    intro d hd
    rw [caseVariants, if_neg hc] at hd
    rcases CaseFolding.cases_of_mem_wideVariants hc hd with wide | letter
    · intro between
      have most : d ≤ last := by simpa using (Bool.and_eq_true_iff.1 between).2
      have : d.toNat ≤ last.toNat := UInt32.le_iff_toNat_le.1 most
      omega
    · have outside := letters d letter
      rw [Bool.not_eq_true'] at outside
      rw [outside]
      exact Bool.false_ne_true
  | union s t hs ht =>
    rw [isNarrow, Bool.and_eq_true] at h
    rw [has, hs h.1, ht h.2, Bool.or_false]
  | compl s => cases h

/-- **Such a set is known from ASCII.** -/
theorem has_eq_of_ascii {set : CharSet} {f : Char → Bool} (h : set.isNarrow = true)
    (ascii : ∀ n : Fin 128, set.has (Char.ofNat n) = f (Char.ofNat n))
    (wide : ∀ c : Char, ¬c.toNat < 128 → f c = false) (c : Char) : set.has c = f c := by
  by_cases hc : c.toNat < 128
  · simpa using ascii ⟨c.toNat, hc⟩
  · rw [has_wide h hc, wide c hc]

end CharSet
end AsmListing
