/-
# Where the words of a text stand

The words of a text are the maximal runs in it that are not blank.  `WordAt` says of a
run that it is one, without looking for words: nothing but blanks, or an end of the text,
is beside it.  That the words are these runs, each with the words before and after it, is
`words_eq_append_cons_iff`.

What is looked for among the words of a text is then found at the leftmost place
(`findSome?_words_eq_some_iff`), since a word that starts before another one stands in
what is before that one (`WordAt.of_length_lt`).
-/

import AsmListing.Proofs.Text.Words

namespace AsmListing
namespace Text

/-- The text is `before`, `w` and `after`, and `w` is a maximal run of characters in it that
are not blank. -/
structure WordAt (s before w after : Text) : Prop where
  text_eq : s = before ++ (w ++ after)
  ne_nil : w ≠ []
  unbroken : ∀ c ∈ w, isBlank c = false
  starts : before.getLast?.all isBlank = true
  ends : after.head?.all isBlank = true

namespace WordAt

variable {s before w after : Text}

/-- The words of a text are those before a word, the word itself, and those after it. -/
theorem words_eq (h : WordAt s before w after) : words s = words before ++ w :: words after := by
  rw [h.text_eq, words_append_of_ends h.starts, words_append_of_starts w h.ends,
    words_of_unbroken h.ne_nil h.unbroken]
  rfl

/-- Where a text starts with a blank, something stands before each of its words. -/
theorem before_ne_nil (h : WordAt s before w after) (blank : s.head?.all isBlank = true) :
    before ≠ [] := by
  rintro rfl
  obtain ⟨c, w, rfl⟩ := List.exists_cons_of_ne_nil h.ne_nil
  rw [h.text_eq] at blank
  simp [h.unbroken c (List.mem_cons_self ..)] at blank

/-- Where a text ends with a blank, something stands after each of its words. -/
theorem after_ne_nil (h : WordAt s before w after) (blank : s.getLast?.all isBlank = true) :
    after ≠ [] := by
  rintro rfl
  obtain ⟨w, c, rfl⟩ := (List.eq_nil_or_concat w).resolve_left h.ne_nil
  rw [h.text_eq] at blank
  simp [h.unbroken c (by simp)] at blank

theorem cons_blank (h : WordAt s before w after) {b : Char} (hb : isBlank b = true) :
    WordAt (b :: s) (b :: before) w after where
  text_eq := by rw [h.text_eq]; rfl
  ne_nil := h.ne_nil
  unbroken := h.unbroken
  starts := by
    cases before with
    | nil => exact hb
    | cons c before => simpa using h.starts
  ends := h.ends

/-- A word of what is before another word is a word of the whole text. -/
theorem in_before (h : WordAt s before w after) {b v a : Text} (h' : WordAt before b v a) :
    WordAt s b v (a ++ (w ++ after)) where
  text_eq := by rw [h.text_eq, h'.text_eq]; simp
  ne_nil := h'.ne_nil
  unbroken := h'.unbroken
  starts := h'.starts
  ends := by
    obtain ⟨c, a, rfl⟩ := List.exists_cons_of_ne_nil (h'.after_ne_nil h.starts)
    exact h'.ends

/-- A word of what is after another word is a word of the whole text. -/
theorem in_after (h : WordAt s before w after) {b v a : Text} (h' : WordAt after b v a) :
    WordAt s (before ++ (w ++ b)) v a where
  text_eq := by rw [h.text_eq, h'.text_eq]; simp
  ne_nil := h'.ne_nil
  unbroken := h'.unbroken
  starts := by
    obtain ⟨b, c, rfl⟩ := (List.eq_nil_or_concat b).resolve_left (h'.before_ne_nil h.ends)
    simpa using h'.starts
  ends := h'.ends

/-- A word that starts before another one stands in what is before that one. -/
theorem of_length_lt (h : WordAt s before w after) {b v a : Text} (h' : WordAt s b v a)
    (lt : b.length < before.length) : ∃ a', WordAt before b v a' := by
  have whole : b ++ (v ++ a) = before ++ (w ++ after) := h'.text_eq.symm.trans h.text_eq
  obtain ⟨m, rfl, rest⟩ : ∃ m, before = b ++ m ∧ v ++ a = m ++ (w ++ after) := by
    rcases List.append_eq_append_iff.1 whole with found | ⟨m, rfl, -⟩
    · exact found
    · rw [List.length_append] at lt
      omega
  rcases List.append_eq_append_iff.1 rest with ⟨a', rfl, rfl⟩ | ⟨v', rfl, -⟩
  · refine ⟨a', rfl, h'.ne_nil, h'.unbroken, h'.starts, ?_⟩
    cases a' with
    | nil => rfl
    | cons c a' => exact h'.ends
  · -- the blank before `w` would be a character of `v`
    obtain ⟨m, c, rfl⟩ := (List.eq_nil_or_concat m).resolve_left (by rintro rfl; simp at lt)
    have blank : isBlank c = true := by simpa using h.starts
    simp [h'.unbroken c (by simp)] at blank

end WordAt

/-- The first word of a text stands behind blanks only. -/
theorem exists_wordAt_of_words_cons {s w : Text} {ws : List Text} (h : words s = w :: ws) :
    ∃ before after, WordAt s before w after ∧ words before = [] ∧ words after = ws := by
  induction s generalizing w ws with
  | nil => cases h
  | cons c s ih =>
    by_cases hc : isBlank c = true
    · rw [words_cons_of_isBlank hc] at h
      obtain ⟨before, after, at', none, rest⟩ := ih h
      exact ⟨c :: before, after, at'.cons_blank hc, by rw [words_cons_of_isBlank hc, none], rest⟩
    · have unbroken : isBlank c = false := by simpa using hc
      rw [words, if_neg hc] at h
      by_cases hs : s.head?.all isBlank = true
      · rw [if_pos hs] at h
        cases h
        exact ⟨[], s, ⟨rfl, List.cons_ne_nil _ _, by simpa using unbroken, rfl, hs⟩, rfl, rfl⟩
      · rw [if_neg hs] at h
        cases s with
        | nil => exact absurd rfl hs
        | cons d s =>
          have hd : isBlank d = false := by simpa using hs
          obtain ⟨v, vs, hv⟩ := List.exists_cons_of_ne_nil (words_cons_ne_nil hd s)
          obtain ⟨before, after, at', none, rest⟩ := ih hv
          -- the first word of the rest starts where the rest does, so that `c` goes on it
          obtain rfl : before = [] := by
            cases before with
            | nil => rfl
            | cons e before =>
              obtain ⟨rfl, -⟩ := List.cons.inj at'.text_eq
              exact absurd none (words_cons_ne_nil hd before)
          rw [hv] at h
          cases h
          refine ⟨[], after, ⟨by rw [at'.text_eq]; rfl, List.cons_ne_nil _ _, ?_, rfl, at'.ends⟩,
            rfl, rest⟩
          simpa [unbroken] using at'.unbroken

/-- **The words of a text are the maximal runs in it that are not blank,** from left to
right. -/
theorem words_eq_append_cons_iff {s w : Text} {ws ws' : List Text} :
    words s = ws ++ w :: ws' ↔
      ∃ before after, WordAt s before w after ∧ words before = ws ∧ words after = ws' := by
  constructor
  · intro h
    -- along the words in front of `w`: each leaves a text in which the next one is the first
    induction ws generalizing s with
    | nil => exact exists_wordAt_of_words_cons h
    | cons v ws ih =>
      obtain ⟨b, a, first, hb, ha⟩ := exists_wordAt_of_words_cons h
      obtain ⟨before, after, next, hbefore, hafter⟩ := ih ha
      refine ⟨b ++ (v ++ before), after, first.in_after next, ?_, hafter⟩
      have starts : before.head?.all isBlank = true := by
        obtain ⟨c, before, rfl⟩ := List.exists_cons_of_ne_nil (next.before_ne_nil first.ends)
        have blank := first.ends
        rw [next.text_eq] at blank
        exact blank
      rw [words_append_of_ends first.starts, words_append_of_starts v starts, hb, hbefore,
        words_of_unbroken first.ne_nil first.unbroken]
      rfl
  · rintro ⟨before, after, h, rfl, rfl⟩
    exact h.words_eq

theorem mem_words_iff {s w : Text} : w ∈ words s ↔ ∃ before after, WordAt s before w after := by
  rw [List.mem_iff_append]
  constructor
  · rintro ⟨ws, ws', h⟩
    obtain ⟨before, after, h, -⟩ := words_eq_append_cons_iff.1 h
    exact ⟨before, after, h⟩
  · rintro ⟨before, after, h⟩
    exact ⟨_, _, h.words_eq⟩

/-- **The first answer that the words of a text give is that of the leftmost word that
gives one.** -/
theorem findSome?_words_eq_some_iff {α : Type} {f : Text → Option α} {s : Text} {x : α} :
    (words s).findSome? f = some x ↔ ∃ before w after, WordAt s before w after ∧ f w = some x ∧
      ∀ b v a, WordAt s b v a → f v ≠ none → before.length ≤ b.length := by
  rw [List.findSome?_eq_some_iff]
  constructor
  · rintro ⟨ws, w, ws', hs, hw, earlier⟩
    obtain ⟨before, after, at', rfl, -⟩ := words_eq_append_cons_iff.1 hs
    refine ⟨before, w, after, at', hw, fun b v a hv answers => Nat.le_of_not_lt fun lt => ?_⟩
    obtain ⟨a', hv⟩ := at'.of_length_lt hv lt
    exact answers (earlier v (mem_words_iff.2 ⟨b, a', hv⟩))
  · rintro ⟨before, w, after, at', hw, leftmost⟩
    refine ⟨_, w, _, at'.words_eq, hw, fun v hv => Classical.byContradiction fun answers => ?_⟩
    obtain ⟨b, a, hv⟩ := mem_words_iff.1 hv
    have le : before.length ≤ b.length := leftmost _ _ _ (at'.in_before hv) answers
    have shorter : 0 < v.length := List.length_pos_iff.2 hv.ne_nil
    rw [hv.text_eq, List.length_append, List.length_append] at le
    omega

theorem findSome?_words_eq_none_iff {α : Type} {f : Text → Option α} {s : Text} :
    (words s).findSome? f = none ↔ ∀ before w after, WordAt s before w after → f w = none := by
  rw [List.findSome?_eq_none_iff]
  exact ⟨fun h before w after hw => h w (mem_words_iff.2 ⟨before, after, hw⟩),
    fun h w hw => by obtain ⟨before, after, hw⟩ := mem_words_iff.1 hw; exact h _ _ _ hw⟩

end Text
end AsmListing
