/-
# Trimmed and cut texts

Trimming drops blanks from the two ends of a text, so a text that has been
trimmed once stays as it is (`trim_trim`), and blanks put at an end are dropped
again (`trim_cons`, `trim_concat`).  A text is cut at a mark exactly when the
piece in front holds no mark (`cutAt_eq_some_iff`).
-/

import Mathlib.Data.List.DropRight
import AsmListing.Text.Blank

namespace AsmListing
namespace Text

theorem trimRight_trimRight (s : Text) : trimRight (trimRight s) = trimRight s :=
  List.rdropWhile_idempotent isBlank s

theorem trimRight_isPrefix (s : Text) : trimRight s <+: s :=
  List.rdropWhile_prefix isBlank s

theorem trimLeft_isSuffix (s : Text) : trimLeft s <:+ s :=
  List.dropWhile_suffix isBlank

/-- A text with a character in front that is no blank is trimmed on the left. -/
theorem trimLeft_eq_self {s : Text} (h : ∀ c ∈ s.head?, isBlank c = false) : trimLeft s = s := by
  cases s with
  | nil => rfl
  | cons c s => exact List.dropWhile_cons_of_neg (by simp [h c rfl])

/-- What is left after trimming on the left starts with no blank. -/
theorem isBlank_of_mem_head?_trimLeft {s : Text} {c : Char} (h : c ∈ (trimLeft s).head?) :
    isBlank c = false := by
  have hs := List.head?_dropWhile_not isBlank s
  rw [show s.dropWhile isBlank = trimLeft s from rfl, Option.mem_def.1 h] at hs
  exact hs

/-- Trimming on the right leaves a text trimmed on the left. -/
theorem trimLeft_trim (s : Text) : trimLeft (trim s) = trim s := by
  refine trimLeft_eq_self fun c hc => ?_
  obtain ⟨r, hr⟩ := trimRight_isPrefix (trimLeft s)
  refine isBlank_of_mem_head?_trimLeft (s := s) ?_
  rw [← hr]
  change c ∈ (trim s).head? at hc
  change c ∈ (trim s ++ r).head?
  cases ht : trim s with
  | nil => rw [ht] at hc; cases hc
  | cons d t => rw [ht] at hc; exact hc

/-- **Trimming a second time changes nothing.** -/
theorem trim_trim (s : Text) : trim (trim s) = trim s := by
  rw [trim, trimLeft_trim, trim, trimRight_trimRight]

/-- Trimming keeps no character that was not there. -/
theorem mem_of_mem_trim {s : Text} {c : Char} (h : c ∈ trim s) : c ∈ s :=
  (trimLeft_isSuffix s).subset ((trimRight_isPrefix (trimLeft s)).subset h)

/-- A blank in front is dropped. -/
theorem trim_cons {c : Char} (h : isBlank c = true) (s : Text) : trim (c :: s) = trim s := by
  rw [trim, trim, trimLeft, List.dropWhile_cons_of_pos h]
  rfl

/-- A blank at the end is dropped. -/
theorem trim_concat {c : Char} (h : isBlank c = true) (s : Text) : trim (s ++ [c]) = trim s := by
  have hc : [c].dropWhile isBlank = [] := List.dropWhile_cons_of_pos h
  rw [trim, trim, trimLeft, List.dropWhile_append, hc]
  split
  · next hs =>
    rw [List.isEmpty_iff] at hs
    rw [trimLeft, hs]
  · exact List.rdropWhile_concat_pos isBlank (s.dropWhile isBlank) c h

/-- **A text is cut at its first mark:** in front stands no mark. -/
theorem cutAt_eq_some_iff {mark : Char} {s l r : Text} :
    cutAt mark s = some (l, r) ↔ mark ∉ l ∧ s = l ++ mark :: r := by
  induction s generalizing l with
  | nil => simp [cutAt]
  | cons c s ih =>
    by_cases hc : c = mark
    · subst hc
      rw [cutAt, if_pos rfl]
      constructor
      · rintro ⟨⟩
        exact ⟨List.not_mem_nil, rfl⟩
      · rintro ⟨hl, hs⟩
        cases l with
        | nil => cases hs; rfl
        | cons d l =>
          rw [List.cons_append, List.cons.injEq] at hs
          exact absurd (hs.1 ▸ List.mem_cons_self ..) hl
    · rw [cutAt, if_neg hc, Option.map_eq_some_iff]
      constructor
      · rintro ⟨⟨l', r'⟩, h, ⟨⟩⟩
        obtain ⟨hl, rfl⟩ := ih.1 h
        exact ⟨by simp [hl, Ne.symm hc], rfl⟩
      · rintro ⟨hl, hs⟩
        cases l with
        | nil => cases hs; exact absurd rfl hc
        | cons d l =>
          rw [List.cons_append, List.cons.injEq] at hs
          obtain ⟨rfl, rfl⟩ := hs
          exact ⟨(l, r), ih.2 ⟨fun h => hl (List.mem_cons_of_mem _ h), rfl⟩, rfl⟩

/-- A text without a mark is not cut. -/
theorem cutAt_eq_none_iff {mark : Char} {s : Text} : cutAt mark s = none ↔ mark ∉ s := by
  induction s with
  | nil => simp [cutAt]
  | cons c s ih =>
    by_cases hc : c = mark
    · simp [cutAt, hc]
    · simp [cutAt, hc, ih, Ne.symm hc]

end Text
end AsmListing
