/-
# Words of texts put together

A blank ends a word, so the words on its two sides are found separately
(`words_append_cons`); everything else about words follows from that equation.  A text
without blanks is one word (`words_of_unbroken`), and blanks have none
(`words_blanks_append`).  Two texts keep their words when they are put together with a blank
at either side of the cut (`words_append_of_ends`, `words_append_of_starts`).
-/

import AsmListing.Text.Blank

namespace AsmListing
namespace Text

theorem words_cons_ne_nil {c : Char} (h : isBlank c = false) (s : Text) : words (c :: s) ≠ [] := by
  rw [words, if_neg (by simp [h])]
  split
  · exact List.cons_ne_nil _ _
  · cases words s <;> exact List.cons_ne_nil _ _

/-- **A blank divides the words of a text.** -/
theorem words_append_cons {b : Char} (hb : isBlank b = true) (s t : Text) :
    words (s ++ b :: t) = words s ++ words t := by
  induction s with
  | nil => exact words_cons_of_isBlank hb t
  | cons c s ih =>
    by_cases hc : isBlank c = true
    · rw [List.cons_append, words_cons_of_isBlank hc, words_cons_of_isBlank hc, ih]
    · have next : (s ++ b :: t).head?.all isBlank = s.head?.all isBlank := by
        cases s with
        | nil => exact hb
        | cons d s => rfl
      rw [List.cons_append, words, words, if_neg hc, if_neg hc, next, ih]
      by_cases hs : s.head?.all isBlank = true
      · rw [if_pos hs, if_pos hs]
        rfl
      · -- the word that `c` starts goes on, so that there is a first word to put it on
        rw [if_neg hs, if_neg hs]
        cases s with
        | nil => exact absurd rfl hs
        | cons d s =>
          have hd : isBlank d = false := by simpa using hs
          obtain ⟨w, ws, hw⟩ := List.exists_cons_of_ne_nil (words_cons_ne_nil hd s)
          rw [hw]
          rfl

theorem unbroken_of_any {s : Text} (h : s.any isBlank = false) : ∀ c ∈ s, isBlank c = false :=
  fun c hc => Bool.eq_false_iff.2 (List.any_eq_false.1 h c hc)

theorem words_of_unbroken {s : Text} (hs : s ≠ []) (h : ∀ c ∈ s, isBlank c = false) :
    words s = [s] := by
  induction s with
  | nil => exact absurd rfl hs
  | cons c s ih =>
    rw [words, if_neg (by simp [h c (List.mem_cons_self ..)])]
    cases s with
    | nil => rfl
    | cons d s =>
      have hd : isBlank d = false := h d (by simp)
      rw [if_neg (by simp [hd]), ih (List.cons_ne_nil _ _) fun e he => h e (List.mem_cons_of_mem _ he)]
      rfl

theorem words_blanks_append {w : Text} (hw : ∀ c ∈ w, isBlank c = true) (s : Text) :
    words (w ++ s) = words s := by
  induction w with
  | nil => rfl
  | cons c w ih =>
    rw [List.cons_append, words_cons_of_isBlank (hw c (List.mem_cons_self ..)),
      ih fun d hd => hw d (List.mem_cons_of_mem _ hd)]

/-- Blanks divide the words of a text, however many there are. -/
theorem words_append_blanks {w : Text} (hw : ∀ c ∈ w, isBlank c = true) (hne : w ≠ [])
    (s t : Text) : words (s ++ (w ++ t)) = words s ++ words t := by
  obtain ⟨b, w, rfl⟩ := List.exists_cons_of_ne_nil hne
  rw [List.cons_append, words_append_cons (hw b (List.mem_cons_self ..)),
    words_blanks_append fun c hc => hw c (List.mem_cons_of_mem _ hc)]

/-- A text that ends with a blank, or is empty, keeps its words in front of another. -/
theorem words_append_of_ends {s : Text} (h : s.getLast?.all isBlank = true) (t : Text) :
    words (s ++ t) = words s ++ words t := by
  rcases List.eq_nil_or_concat s with rfl | ⟨s, b, rfl⟩
  · rfl
  · have hb : isBlank b = true := by simpa using h
    rw [List.concat_eq_append, List.append_assoc, List.singleton_append, words_append_cons hb,
      words_append_cons hb]
    simp [words]

/-- A text that starts with a blank, or is empty, keeps its words behind another. -/
theorem words_append_of_starts (s : Text) {t : Text} (h : t.head?.all isBlank = true) :
    words (s ++ t) = words s ++ words t := by
  cases t with
  | nil => simp [words]
  | cons b t => rw [words_append_cons h, words_cons_of_isBlank h]

end Text
end AsmListing
