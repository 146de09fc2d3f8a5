/-
# Patterns pasted into patterns

A written pattern is pasted between other texts to make a larger one.  What comes
of it is not clear in general, since the text may close a group that it did not
open.  But a text that is a pattern by itself is one also in its place: the reading
of it never touches the groups that were open before (`Draft.step_under`), so
between an opening and a closing parenthesis it becomes a group (`writes_group`).

`Writes s items` says that the text `s` adds just these items wherever it is
pasted.  Pieces of that kind are put together one behind the other
(`Writes.append`), and a pattern made of them is their sequence
(`Writes.eq_sequence`).
-/

import AsmListing.Certain
import AsmListing.Pattern.Reading
import AsmListing.Proofs.Pattern.Lexemes

namespace AsmListing
namespace Pattern

/-- The group with or without a name around a pattern. -/
def named (name : Option Text) (p : Pattern) : Pattern :=
  match name with
  | some n => group n p
  | none => p

namespace Draft

/-- An opening parenthesis starts a group inside of the current one. -/
theorem eq_of_step_opening {d e : Draft} {name : Option Text} (h : d.step (.opening name) = .ok e) :
    e = ⟨OpenGroup.fresh, (name, d.current) :: d.outer, name.toList ++ d.names⟩ := by
  cases name with
  | none => cases h; rfl
  | some name =>
    rw [step] at h
    split at h
    · cases h
    · cases h
      rfl

/-- A closing parenthesis ends the current group, which becomes an item. -/
theorem step_closing (current g : OpenGroup) (name : Option Text)
    (outer : List (Option Text × OpenGroup)) (names : List Text) :
    step ⟨current, (name, g) :: outer, names⟩ .closing =
      .ok ⟨g.add (named name current.close), outer, names⟩ := by
  cases name <;> rfl

/-- A draft with more open groups around it and more names given. -/
def under (outer : List (Option Text × OpenGroup)) (names : List Text) (d : Draft) : Draft :=
  ⟨d.current, d.outer ++ outer, d.names ++ names⟩

/-- **A lexeme that can be read by itself does the same inside of other groups,**
unless a name is given again. -/
theorem step_under {d d' e : Draft} {l : Lexeme} {outer : List (Option Text × OpenGroup)}
    {names : List Text} (h : d.step l = .ok d') (he : (d.under outer names).step l = .ok e) :
    e = d'.under outer names := by
  cases l with
  | item | bar => cases h; cases he; rfl
  | repeated r =>
    obtain ⟨g, hg, rfl⟩ := Certain.map_eq_ok_iff.1 h
    obtain ⟨g', hg', rfl⟩ := Certain.map_eq_ok_iff.1 he
    cases hg.symm.trans hg'
    rfl
  | opening name =>
    rw [eq_of_step_opening h, eq_of_step_opening he, under, under, List.cons_append,
      List.append_assoc]
  | closing =>
    obtain ⟨current, inner, given⟩ := d
    cases inner with
    | nil => cases h
    | cons around inner =>
      obtain ⟨name, g⟩ := around
      rw [step_closing] at h
      rw [under, List.cons_append, step_closing] at he
      cases h
      cases he
      rfl

theorem foldlM_under {ls : List Lexeme} {d d' e : Draft} {outer : List (Option Text × OpenGroup)}
    {names : List Text} (h : ls.foldlM step d = .ok d')
    (he : ls.foldlM step (d.under outer names) = .ok e) : e = d'.under outer names := by
  induction ls generalizing d with
  | nil =>
    cases h
    cases he
    rfl
  | cons l ls ih =>
    rw [List.foldlM_cons] at h he
    obtain ⟨d₁, hd, h⟩ := Certain.bind_eq_ok_iff.1 h
    obtain ⟨e₁, hu, he⟩ := Certain.bind_eq_ok_iff.1 he
    rw [step_under hd hu] at he
    exact ih h he

end Draft

/-- What lexemes describe by themselves. -/
def ofLexemes (ls : List Lexeme) : Except Fault Pattern :=
  ls.foldlM Draft.step Draft.blank >>= Draft.finish

theorem ofText_eq_ok_iff {s : Text} {p : Pattern} :
    ofText s = .ok p ↔ ∃ ls, Lexeme.ofText 0 s = .ok ls ∧ ofLexemes ls = .ok p :=
  Certain.bind_eq_ok_iff

/-- Lexemes describe a pattern when they can be read and leave no group open. -/
theorem ofLexemes_eq_ok_iff {ls : List Lexeme} {p : Pattern} :
    ofLexemes ls = .ok p ↔ ∃ d, ls.foldlM Draft.step Draft.blank = .ok d ∧ d.outer = [] ∧
      d.current.close = p := by
  have finished : ∀ d : Draft, d.finish = .ok p ↔ d.outer = [] ∧ d.current.close = p := by
    intro d
    unfold Draft.finish
    by_cases ho : d.outer = [] <;> simp [ho]
  unfold ofLexemes
  simp only [Certain.bind_eq_ok_iff, finished]

/-- A pattern does not start with a question mark. -/
theorem head?_ne_of_ofText {s : Text} {p : Pattern} (h : ofText s = .ok p) :
    s.head? ≠ some '?' := by
  intro hs
  obtain ⟨ls, hl, hls⟩ := ofText_eq_ok_iff.1 h
  cases s with
  | nil => cases hs
  | cons c s =>
    cases hs
    obtain ⟨r, n, hr⟩ : ∃ r n, Lexeme.repetition 0 (some 1) s = (.repeated r, n) := by
      unfold Lexeme.repetition
      split <;> exact ⟨_, _, rfl⟩
    rw [Lexeme.ofText, show Lexeme.first '?' s = .ok (.repeated r, n) from congrArg _ hr] at hl
    dsimp only at hl
    obtain ⟨ms, -, rfl⟩ := Certain.map_eq_ok_iff.1 hl
    cases hls

/-- Lexemes that add items to the innermost open group and change nothing else but
the names that are given, wherever they can be read. -/
def Adds (ls : List Lexeme) (items : List Pattern) : Prop :=
  ∀ d e : Draft, ls.foldlM Draft.step d = .ok e → ∃ names,
    e = ⟨⟨d.current.alternatives, items.reverse ++ d.current.items⟩, d.outer, names⟩

theorem Adds.append {ls ms : List Lexeme} {ps qs : List Pattern} (hl : Adds ls ps)
    (hm : Adds ms qs) : Adds (ls ++ ms) (ps ++ qs) := by
  intro d e h
  rw [List.foldlM_append] at h
  obtain ⟨d₁, hd, h⟩ := Certain.bind_eq_ok_iff.1 h
  obtain ⟨names, rfl⟩ := hl d d₁ hd
  obtain ⟨names', rfl⟩ := hm _ e h
  exact ⟨names', by simp⟩

/-- **Lexemes that can be read by themselves become an item between parentheses.** -/
theorem adds_group {ls : List Lexeme} {p : Pattern} (h : ofLexemes ls = .ok p)
    (name : Option Text) : Adds (.opening name :: (ls ++ [.closing])) [named name p] := by
  intro c e hc
  obtain ⟨d, hd, ho, rfl⟩ := ofLexemes_eq_ok_iff.1 h
  rw [List.foldlM_cons] at hc
  obtain ⟨c₁, hopen, hc⟩ := Certain.bind_eq_ok_iff.1 hc
  have inside : c₁ = Draft.blank.under ((name, c.current) :: c.outer) (name.toList ++ c.names) :=
    Draft.eq_of_step_opening hopen
  subst inside
  rw [List.foldlM_append] at hc
  obtain ⟨c₂, hread, hc⟩ := Certain.bind_eq_ok_iff.1 hc
  have closed := Draft.foldlM_under hd hread
  rw [Draft.under, ho, List.nil_append] at closed
  subst closed
  rw [List.foldlM_cons, Draft.step_closing] at hc
  cases hc
  exact ⟨_, rfl⟩

theorem Adds.repeated {ls : List Lexeme} {p : Pattern} (h : Adds ls [p]) (r : Repetition) :
    Adds (ls ++ [.repeated r]) [p.times r] := by
  intro d e he
  rw [List.foldlM_append] at he
  obtain ⟨d₁, hd, he⟩ := Certain.bind_eq_ok_iff.1 he
  obtain ⟨names, rfl⟩ := h d d₁ hd
  rw [List.foldlM_cons] at he
  obtain ⟨_, hstep, he⟩ := Certain.bind_eq_ok_iff.1 he
  cases hstep
  cases he
  exact ⟨names, rfl⟩

/-- A written piece of a pattern that adds the same items wherever it stands. -/
def Writes (s : Text) (items : List Pattern) : Prop :=
  ∃ ls, Lexeme.ofText 0 s = .ok ls ∧ Adds ls items

theorem Writes.append {s t : Text} {ps qs : List Pattern} (hs : Writes s ps) (ht : Writes t qs)
    (hq : t.head? ≠ some '?') : Writes (s ++ t) (ps ++ qs) := by
  obtain ⟨ls, hl, hps⟩ := hs
  obtain ⟨ms, hm, hqs⟩ := ht
  exact ⟨ls ++ ms, by rw [Lexeme.ofText_append hl hq, hm]; rfl, hps.append hqs⟩

/-- **A pattern between parentheses is pasted as a group.** -/
theorem writes_group {s o : Text} {p : Pattern} {name : Option Text} (h : ofText s = .ok p)
    (ho : Lexeme.ofText 0 o = .ok [.opening name]) : Writes (o ++ s ++ [')']) [named name p] := by
  obtain ⟨ls, hl, hls⟩ := ofText_eq_ok_iff.1 h
  refine ⟨.opening name :: (ls ++ [.closing]), ?_, adds_group hls name⟩
  rw [List.append_assoc, Lexeme.ofText_append ho, Lexeme.ofText_append hl (by decide)]
  · rfl
  · have hs := head?_ne_of_ofText h
    cases s with
    | nil => decide
    | cons c s => exact hs

/-- **What is put together from such pieces is their sequence.** -/
theorem Writes.eq_sequence {s : Text} {items : List Pattern} {p : Pattern} (hs : Writes s items)
    (hp : ofText s = .ok p) : p = sequence items := by
  obtain ⟨ls, hl, hadds⟩ := hs
  obtain ⟨ls', hl', hls⟩ := ofText_eq_ok_iff.1 hp
  rw [hl] at hl'
  cases hl'
  obtain ⟨d, hd, -, rfl⟩ := ofLexemes_eq_ok_iff.1 hls
  obtain ⟨names, rfl⟩ := hadds _ d hd
  simp [Draft.blank, OpenGroup.fresh, OpenGroup.close, OpenGroup.next, choice]

end Pattern
end AsmListing
