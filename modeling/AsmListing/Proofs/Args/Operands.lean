/-
# Operand texts

An operand text is what may stand before a comment: a trimmed text without a
semicolon.  `Args.splitComment` yields such a text on its left
(`isOperands_splitComment`) and leaves such a text whole
(`IsOperands.splitComment_eq`).  Conversely a text that holds a semicolon is
split there into its two trimmed sides (`splitComment_append`), and blanks in
front of a text make no difference (`splitComment_trimLeft`).
-/

import AsmListing.Args
import AsmListing.Proofs.Text.Trimming

namespace AsmListing
namespace Args

/-- A text that may stand before a comment. -/
structure IsOperands (s : Text) : Prop where
  trimmed : Text.trim s = s
  unmarked : ';' ∉ s

/-- A text is split at its first semicolon into two trimmed sides. -/
theorem splitComment_append {l : Text} (h : ';' ∉ l) (r : Text) :
    splitComment (l ++ ';' :: r) = (Text.trim l, some (Text.trim r)) := by
  rw [splitComment, Text.cutAt_eq_some_iff.2 ⟨h, rfl⟩]

/-- A text without a semicolon is trimmed. -/
theorem splitComment_of_not_mem {s : Text} (h : ';' ∉ s) :
    splitComment s = (Text.trim s, none) := by
  rw [splitComment, Text.cutAt_eq_none_iff.2 h]

/-- **Every text has the form of one of the last two lemmas.** -/
theorem splitComment_cases (s : Text) :
    (∃ l r, ';' ∉ l ∧ s = l ++ ';' :: r ∧ splitComment s = (Text.trim l, some (Text.trim r))) ∨
      ';' ∉ s ∧ splitComment s = (Text.trim s, none) := by
  cases h : Text.cutAt ';' s with
  | none =>
    have hs := Text.cutAt_eq_none_iff.1 h
    exact .inr ⟨hs, splitComment_of_not_mem hs⟩
  | some lr =>
    obtain ⟨l, r⟩ := lr
    obtain ⟨hl, rfl⟩ := Text.cutAt_eq_some_iff.1 h
    exact .inl ⟨l, r, hl, rfl, splitComment_append hl r⟩

/-- What stands before the comment is an operand text. -/
theorem isOperands_splitComment (s : Text) : IsOperands (splitComment s).1 := by
  rcases splitComment_cases s with ⟨l, r, hl, -, h⟩ | ⟨hs, h⟩ <;> rw [h]
  · exact ⟨Text.trim_trim l, fun hc => hl (Text.mem_of_mem_trim hc)⟩
  · exact ⟨Text.trim_trim s, fun hc => hs (Text.mem_of_mem_trim hc)⟩

/-- An operand text has no comment and nothing to trim. -/
theorem IsOperands.splitComment_eq {s : Text} (h : IsOperands s) : splitComment s = (s, none) := by
  rw [splitComment_of_not_mem h.unmarked, h.trimmed]

/-- A comment is trimmed. -/
theorem trim_of_splitComment {s c : Text} (h : (splitComment s).2 = some c) : Text.trim c = c := by
  rcases splitComment_cases s with ⟨l, r, -, -, hs⟩ | ⟨-, hs⟩
  · rw [hs, Option.some.injEq] at h
    rw [← h, Text.trim_trim]
  · rw [hs] at h
    cases h

/-- Both sides hold characters of the text only. -/
theorem mem_of_mem_splitComment {s : Text} {d : Char}
    (h : d ∈ (splitComment s).1 ∨ d ∈ (splitComment s).2.getD []) : d ∈ s := by
  rcases splitComment_cases s with ⟨l, r, -, rfl, hs⟩ | ⟨-, hs⟩ <;> rw [hs] at h
  · rcases h with h | h
    · exact List.mem_append_left _ (Text.mem_of_mem_trim h)
    · exact List.mem_append_right _ (List.mem_cons_of_mem _ (Text.mem_of_mem_trim h))
  · rcases h with h | h
    · exact Text.mem_of_mem_trim h
    · cases h

/-- A blank in front makes no difference. -/
theorem splitComment_cons {c : Char} (hc : isBlank c = true) (s : Text) :
    splitComment (c :: s) = splitComment s := by
  have hne : c ≠ ';' := by
    rintro rfl
    exact absurd hc (by decide)
  rcases splitComment_cases s with ⟨l, r, hl, rfl, h⟩ | ⟨hs, h⟩ <;> rw [h]
  · rw [← List.cons_append, splitComment_append (by simp [hl, Ne.symm hne]), Text.trim_cons hc]
  · rw [splitComment_of_not_mem (by simp [hs, Ne.symm hne]), Text.trim_cons hc]

/-- Blanks in front make no difference. -/
theorem splitComment_trimLeft (s : Text) : splitComment (Text.trimLeft s) = splitComment s := by
  induction s with
  | nil => rfl
  | cons c s ih =>
    by_cases hc : isBlank c = true
    · rw [splitComment_cons hc, ← ih, Text.trimLeft, List.dropWhile_cons_of_pos hc]
      rfl
    · rw [Text.trimLeft, List.dropWhile_cons_of_neg hc]

end Args
end AsmListing
