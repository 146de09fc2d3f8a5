/-
# Texts put together from lines

No line holds a line feed (`not_mem_of_mem_lines`).  Conversely, lines without a
line feed that are each ended by a carriage return and a line feed are read back
as they are, carriage returns at their ends included (`lines_flatMap_crlf`).

A text that breaks off at the end of a line (`EndsLine`) has its lines whatever
follows it (`lines_append`).  While there are no carriage returns it makes no
difference whether lines end with one as well (`lines_withReturns`), and none
whether the last line is ended (`lines_concat_lf`).
-/

import AsmListing.Text.Lines

namespace AsmListing
namespace Text

theorem mem_of_mem_onFirst {c d : Char} {ls : List Text} {l : Text} (hl : l ∈ onFirst c ls)
    (hd : d ∈ l) : d = c ∨ ∃ l' ∈ ls, d ∈ l' := by
  cases ls with
  | nil =>
    rw [List.mem_singleton.1 hl] at hd
    exact .inl (List.mem_singleton.1 hd)
  | cons p ps =>
    rcases List.mem_cons.1 hl with rfl | hl
    · rcases List.mem_cons.1 hd with rfl | hd
      · exact .inl rfl
      · exact .inr ⟨p, List.mem_cons_self .., hd⟩
    · exact .inr ⟨l, List.mem_cons_of_mem _ hl, hd⟩

/-- **No line holds a line feed.** -/
theorem not_mem_of_mem_lines {s l : Text} (hl : l ∈ lines s) : '\n' ∉ l := by
  fun_induction lines s generalizing l with
  | case1 => cases hl
  | case2 s ih | case3 s ih =>
    rcases List.mem_cons.1 hl with rfl | hl
    · exact List.not_mem_nil
    · exact ih hl
  | case4 c s hn _ ih =>
    intro hd
    rcases mem_of_mem_onFirst hl hd with rfl | ⟨l', hl', hd⟩
    · exact hn rfl
    · exact ih hl' hd

/-- A line without a line feed is read up to its end. -/
theorem lines_append_crlf {l : Text} (hl : '\n' ∉ l) (s : Text) :
    lines (l ++ '\r' :: '\n' :: s) = l :: lines s := by
  induction l with
  | nil => exact lines_crlf s
  | cons c l ih =>
    obtain ⟨hc, hl⟩ : '\n' ≠ c ∧ '\n' ∉ l := by simpa using hl
    rw [List.cons_append, lines_cons hc.symm, ih hl]
    · rfl
    · -- the line feed of a line end has its own carriage return before it
      rintro t - h
      cases l with
      | nil => cases h
      | cons d l =>
        rw [List.cons_append, List.cons.injEq] at h
        exact hl (h.1 ▸ List.mem_cons_self ..)

/-- **Lines that are each ended are read back.** -/
theorem lines_flatMap_crlf {ls : List Text} (h : ∀ l ∈ ls, '\n' ∉ l) :
    lines (ls.flatMap fun l => l ++ ['\r', '\n']) = ls := by
  induction ls with
  | nil => rfl
  | cons l ls ih =>
    rw [List.flatMap_cons, List.append_assoc, List.cons_append, List.cons_append, List.nil_append,
      lines_append_crlf (h l (List.mem_cons_self ..)),
      ih fun l hl => h l (List.mem_cons_of_mem _ hl)]

theorem lines_ne_nil {s : Text} (hs : s ≠ []) : lines s ≠ [] := by
  fun_cases lines s with
  | case1 => exact absurd rfl hs
  | case2 | case3 => exact List.cons_ne_nil _ _
  | case4 c s => cases hl : lines s <;> simp [onFirst]

/-- The text is empty, or a line ends where the text ends. -/
def EndsLine (s : Text) : Prop :=
  s = [] ∨ s.getLast? = some '\n'

theorem endsLine_cons_iff {c : Char} {s : Text} :
    EndsLine (c :: s) ↔ EndsLine s ∧ (s = [] → c = '\n') := by
  cases s with
  | nil => simp [EndsLine]
  | cons d s => simp [EndsLine, List.getLast?_cons_cons]

/-- **Behind the end of a line, the lines are those of the text that is left.** -/
theorem lines_append {s : Text} (hs : EndsLine s) (t : Text) :
    lines (s ++ t) = lines s ++ lines t := by
  fun_induction lines s with
  | case1 => rfl
  | case2 s ih =>
    rw [List.cons_append, lines_lf, ih (endsLine_cons_iff.1 hs).1, List.cons_append]
  | case3 s ih =>
    have ends : EndsLine s := (endsLine_cons_iff.1 (endsLine_cons_iff.1 hs).1).1
    rw [List.cons_append, List.cons_append, lines_crlf, ih ends, List.cons_append]
  | case4 c s hn hr ih =>
    -- the line that `c` starts goes on, since `c` does not end it
    obtain ⟨ends, single⟩ := endsLine_cons_iff.1 hs
    have more : s ≠ [] := fun h => hn (single h)
    have noEnd : ∀ r, c = '\r' → s ++ t ≠ '\n' :: r := by
      intro r hc h
      obtain ⟨d, s, rfl⟩ := List.exists_cons_of_ne_nil more
      rw [List.cons_append, List.cons.injEq] at h
      exact hr s hc (by rw [h.1])
    rw [List.cons_append, lines_cons hn noEnd, ih ends]
    obtain ⟨l, ls, hls⟩ := List.exists_cons_of_ne_nil (lines_ne_nil more)
    rw [hls]
    rfl

theorem lines_cons_of_ne {c : Char} (hn : c ≠ '\n') (hr : c ≠ '\r') (s : Text) :
    lines (c :: s) = onFirst c (lines s) :=
  lines_cons hn fun _ h => absurd h hr

/-- **The last line may be ended or not,** if there is one. -/
theorem lines_concat_lf {s : Text} (hs : ¬EndsLine s) (hr : '\r' ∉ s) :
    lines (s ++ ['\n']) = lines s := by
  induction s with
  | nil => exact absurd (.inl rfl) hs
  | cons c s ih =>
    obtain ⟨hc, hrs⟩ : '\r' ≠ c ∧ '\r' ∉ s := by simpa using hr
    have behind : s ≠ [] → lines (s ++ ['\n']) = lines s := fun more =>
      ih (fun ends => hs (endsLine_cons_iff.2 ⟨ends, fun h => absurd h more⟩)) hrs
    by_cases hn : c = '\n'
    · subst hn
      have more : s ≠ [] := by
        rintro rfl
        exact hs (.inr rfl)
      rw [List.cons_append, lines_lf, lines_lf, behind more]
    · rw [List.cons_append, lines_cons_of_ne hn hc.symm, lines_cons_of_ne hn hc.symm]
      cases s with
      | nil => rfl
      | cons d s => rw [behind (List.cons_ne_nil d s)]

/-- The text with a carriage return before each line feed. -/
def withReturns (s : Text) : Text :=
  s.flatMap fun c => if c = '\n' then ['\r', '\n'] else [c]

/-- **Where there are no carriage returns, one may stand before each line feed.** -/
theorem lines_withReturns {s : Text} (hr : '\r' ∉ s) : lines (withReturns s) = lines s := by
  induction s with
  | nil => rfl
  | cons c s ih =>
    obtain ⟨hc, hrs⟩ : '\r' ≠ c ∧ '\r' ∉ s := by simpa using hr
    have head : withReturns (c :: s) =
        (if c = '\n' then ['\r', '\n'] else [c]) ++ withReturns s := List.flatMap_cons
    rw [head]
    by_cases hn : c = '\n'
    · subst hn
      rw [if_pos rfl, List.cons_append, List.cons_append, List.nil_append, lines_crlf, lines_lf,
        ih hrs]
    · rw [if_neg hn, List.cons_append, List.nil_append, lines_cons_of_ne hn hc.symm,
        lines_cons_of_ne hn hc.symm, ih hrs]

end Text
end AsmListing
