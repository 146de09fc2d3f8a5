/-
# Lines that are instructions

A `Spelling` holds all parts of a line that is an instruction, the blanks between them
included, and carries what the parts are made of.  Every line that is an instruction has
one (`reads_iff_exists_spelling`), and never two: each run of characters ends where
characters of another kind begin, so the parts can be read off the line from its front
(`Spelling.text_injective`).

The blanks are all that a record forgets.  A line of single blanks is a spelling too
(`Spelling.text_spelling`), so a record that is printed that way is read back.  It is
printed in the words of its line, since blanks only tell words apart
(`Spelling.words_text`).
-/

import Mathlib.Data.Option.Basic
import AsmListing.Proofs.Record.Grammar
import AsmListing.Proofs.Text.Words

namespace AsmListing

/-- A run of characters of one kind is the same however the text goes on, as long as a
character of another kind or nothing follows it. -/
theorem Text.run_unique {p : Char → Bool} {run run' s s' : Text} (hr : ∀ c ∈ run, p c = true)
    (hs : ∀ c ∈ s.head?, p c = false) (hr' : ∀ c ∈ run', p c = true)
    (hs' : ∀ c ∈ s'.head?, p c = false) (h : run ++ s = run' ++ s') : run = run' ∧ s = s' := by
  obtain ⟨htake, hdrop⟩ := takeWhile_append_run hr hs
  obtain ⟨htake', hdrop'⟩ := takeWhile_append_run hr' hs'
  rw [h] at htake hdrop
  exact ⟨htake.symm.trans htake', hdrop.symm.trans hdrop'⟩

namespace Record

/-- The address, opcode and args that an instruction can have. -/
@[ext]
structure Fields where
  address : Text
  opcode : Text
  args : Option Text
  digits : ∀ c ∈ address, isHexDigit c = true
  addressed : address ≠ []
  unbroken : ∀ c ∈ opcode, isBlank c = false
  named : opcode ≠ []
  /-- Args that are present may be empty. -/
  trimmed : ∀ s ∈ args, ∀ c ∈ s.head?, isBlank c = false
  oneLine : ∀ s ∈ args, '\n' ∉ s

/-- An instruction and the blanks that stand around its parts on a line. -/
@[ext]
structure Spelling extends Fields where
  /-- The blanks in front of the address. -/
  indent : Text
  /-- The blanks behind the colon. -/
  gap : Text
  /-- The blanks behind the opcode. -/
  space : Text
  indent_blank : ∀ c ∈ indent, isBlank c = true
  gap_blank : ∀ c ∈ gap, isBlank c = true
  space_blank : ∀ c ∈ space, isBlank c = true
  gap_ne_nil : gap ≠ []
  space_eq_nil_iff : space = [] ↔ args = none

namespace Fields

/-- The instruction with these parts. -/
def record (f : Fields) : Record :=
  .instruction f.address f.opcode f.args

/-- The parts on a line, with single blanks between them. -/
def printed (f : Fields) : Text :=
  f.address ++ ": ".toList ++ f.opcode ++ (f.args.map (' ' :: ·)).getD []

/-- The line that spells the parts with single blanks. -/
def spelling (f : Fields) : Spelling where
  toFields := f
  indent := []
  gap := [' ']
  space := if f.args.isSome then [' '] else []
  indent_blank := List.forall_mem_nil _
  gap_blank := List.forall_mem_singleton.2 (by decide)
  space_blank := by
    split
    · exact List.forall_mem_singleton.2 (by decide)
    · exact List.forall_mem_nil _
  gap_ne_nil := List.cons_ne_nil _ _
  space_eq_nil_iff := by cases f.args <;> simp

/-- An address and its colon are one word. -/
theorem words_address (f : Fields) : Text.words (f.address ++ [':']) = [f.address ++ [':']] := by
  refine Text.words_of_unbroken (by simp) fun c hc => ?_
  rcases List.mem_append.1 hc with hc | hc
  · exact isBlank_of_isHexDigit (f.digits c hc)
  · rw [List.mem_singleton.1 hc]
    decide

theorem words_opcode (f : Fields) : Text.words f.opcode = [f.opcode] :=
  Text.words_of_unbroken f.named f.unbroken

end Fields

namespace Spelling

/-- The line. -/
def text (s : Spelling) : Text :=
  s.indent ++ (s.address ++ ':' :: (s.gap ++ (s.opcode ++ (s.space ++ s.args.getD []))))

theorem text_spelling (f : Fields) : f.spelling.text = f.printed := by
  cases h : f.args <;> simp [text, Fields.spelling, Fields.printed, h]

variable (s : Spelling)

/-! ### Where each part ends -/

theorem isBlank_head_address (r : Text) : ∀ c ∈ (s.address ++ r).head?, isBlank c = false := by
  obtain ⟨d, ds, h⟩ := List.exists_cons_of_ne_nil s.addressed
  intro c hc
  rw [h] at hc
  cases hc
  exact isBlank_of_isHexDigit (s.digits _ (by rw [h]; exact List.mem_cons_self ..))

theorem isBlank_head_opcode (r : Text) : ∀ c ∈ (s.opcode ++ r).head?, isBlank c = false := by
  obtain ⟨d, ds, h⟩ := List.exists_cons_of_ne_nil s.named
  intro c hc
  rw [h] at hc
  cases hc
  exact s.unbroken _ (by rw [h]; exact List.mem_cons_self ..)

theorem isBlank_head_space : ∀ c ∈ (s.space ++ s.args.getD []).head?, isBlank c = true := by
  intro c hc
  cases hs : s.space with
  | nil =>
    rw [hs, s.space_eq_nil_iff.1 hs] at hc
    cases hc
  | cons b w =>
    rw [hs] at hc
    cases hc
    exact s.space_blank _ (by rw [hs]; exact List.mem_cons_self ..)

theorem isBlank_head_args : ∀ c ∈ (s.args.getD []).head?, isBlank c = false := by
  cases h : s.args with
  | none => exact fun c hc => nomatch hc
  | some args => exact s.trimmed args h

/-- **A line has at most one spelling.** -/
theorem text_injective : Function.Injective text := by
  intro s s' h
  have notBlank : ∀ {c}, isBlank c = false → (!isBlank c) = true := by simp
  have blank : ∀ {c}, isBlank c = true → (!isBlank c) = false := by simp
  obtain ⟨indent, h⟩ := Text.run_unique s.indent_blank (s.isBlank_head_address _) s'.indent_blank
    (s'.isBlank_head_address _) h
  have colon : ∀ r : Text, ∀ c ∈ (':' :: r).head?, isHexDigit c = false := by
    rintro r c ⟨⟩
    decide
  obtain ⟨address, h⟩ := Text.run_unique s.digits (colon _) s'.digits (colon _) h
  obtain ⟨gap, h⟩ := Text.run_unique s.gap_blank (s.isBlank_head_opcode _) s'.gap_blank
    (s'.isBlank_head_opcode _) (List.cons.inj h).2
  obtain ⟨opcode, h⟩ := Text.run_unique (p := fun c => !isBlank c)
    (fun c hc => notBlank (s.unbroken c hc)) (fun c hc => blank (s.isBlank_head_space c hc))
    (fun c hc => notBlank (s'.unbroken c hc)) (fun c hc => blank (s'.isBlank_head_space c hc)) h
  obtain ⟨space, args⟩ := Text.run_unique s.space_blank s.isBlank_head_args s'.space_blank
    s'.isBlank_head_args h
  have same : s.args = s'.args := by
    have both : s.args = none ↔ s'.args = none := by
      rw [← s.space_eq_nil_iff, ← s'.space_eq_nil_iff, space]
    cases ha : s.args with
    | none => rw [both.1 ha]
    | some a =>
      cases ha' : s'.args with
      | none => rw [both.2 ha'] at ha; cases ha
      | some a' =>
        rw [ha, ha'] at args
        exact congrArg some args
  exact Spelling.ext address opcode same indent gap space

/-- **The words of a line are those of its parts,** the colon being part of the first. -/
theorem words_text : Text.words s.text =
    [s.address ++ [':']] ++ ([s.opcode] ++ Text.words (s.args.getD [])) := by
  have behind : Text.words (s.opcode ++ (s.space ++ s.args.getD [])) =
      [s.opcode] ++ Text.words (s.args.getD []) := by
    by_cases hs : s.space = []
    · rw [hs, s.space_eq_nil_iff.1 hs]
      simpa [Text.words] using s.words_opcode
    · rw [Text.words_append_blanks s.space_blank hs, s.words_opcode]
  have line : s.text =
      s.indent ++ ((s.address ++ [':']) ++ (s.gap ++ (s.opcode ++ (s.space ++ s.args.getD [])))) := by
    simp [text]
  rw [line, Text.words_blanks_append s.indent_blank, Text.words_append_blanks s.gap_blank
    s.gap_ne_nil, behind, s.words_address]

end Spelling

/-- A line reads as an instruction exactly when there is a spelling of the line with its
parts. -/
theorem reads_iff_exists_spelling {line address opcode : Text} {args : Option Text} :
    Reads line address opcode args ↔
      ∃ s : Spelling, s.text = line ∧ s.record = .instruction address opcode args := by
  constructor
  · rintro ⟨blanks, digits, nonempty, gapBlank, gapNe, unbroken, named, tail⟩
    cases tail with
    | absent =>
      exact ⟨⟨⟨address, opcode, none, digits, nonempty, unbroken, named, by simp, by simp⟩, _, _,
        [], blanks, gapBlank, by simp, gapNe, by simp⟩, by simp [Spelling.text], rfl⟩
    | present spaceBlank spaceNe trimmed oneLine =>
      exact ⟨⟨⟨address, opcode, some _, digits, nonempty, unbroken, named, by simpa using trimmed,
        by simpa using oneLine⟩, _, _, _, blanks, gapBlank, spaceBlank, gapNe, by simpa using spaceNe⟩,
        by simp [Spelling.text], rfl⟩
  · rintro ⟨s, rfl, h⟩
    cases h
    have tail : ReadsArgs (s.space ++ s.args.getD []) s.args := by
      cases ha : s.args with
      | none =>
        rw [s.space_eq_nil_iff.2 ha]
        exact .absent
      | some args =>
        have space : s.space ≠ [] := fun h => by rw [s.space_eq_nil_iff.1 h] at ha; cases ha
        exact .present s.space_blank space (s.trimmed args ha) (s.oneLine args ha)
    exact .intro s.indent_blank s.digits s.addressed
      (.intro s.gap_blank s.gap_ne_nil s.unbroken s.named tail)

theorem ofLine_text (s : Spelling) : ofLine s.text = s.record :=
  ofLine_eq_instruction_iff.2 (reads_iff_exists_spelling.2 ⟨s, rfl, rfl⟩)

/-- **A line is an instruction exactly when it has a spelling,** of which there is one at
most; every other line is kept as it is.  An instruction with any parts is read back when
it is printed with single blanks, and printed that way, a blank behind the opcode even
where there are no args, it has the words of the line it was read from. -/
theorem ofLine_spelled :
    (∀ line address opcode args, ofLine line = .instruction address opcode args ↔
      ∃ s : Spelling, s.text = line ∧
        s.address = address ∧ s.opcode = opcode ∧ s.args = args) ∧
    Function.Injective Spelling.text ∧
    (∀ line, (¬∃ s : Spelling, s.text = line) → ofLine line = .unformatted line) ∧
    (∀ f : Fields, ofLine f.printed = .instruction f.address f.opcode f.args) ∧
    ∀ line address opcode args, ofLine line = .instruction address opcode args →
      Text.words (address ++ ": ".toList ++ opcode ++ " ".toList ++ args.getD []) =
        Text.words line := by
  refine ⟨fun line address opcode args => ?_, Spelling.text_injective, fun line h => ?_,
    fun f => ?_, fun line address opcode args h => ?_⟩
  · rw [ofLine_eq_instruction_iff, reads_iff_exists_spelling]
    simp only [Fields.record, instruction.injEq]
  · cases hl : ofLine line with
    | unformatted text => rw [ofLine_eq_unformatted hl]
    | instruction address opcode args =>
      obtain ⟨s, hs, -⟩ := reads_iff_exists_spelling.1 (ofLine_eq_instruction_iff.1 hl)
      exact absurd ⟨s, hs⟩ h
  · rw [← Spelling.text_spelling]
    exact ofLine_text f.spelling
  · obtain ⟨s, rfl, hr⟩ := reads_iff_exists_spelling.1 (ofLine_eq_instruction_iff.1 h)
    cases hr
    -- the line with single blanks, and with one more where there are no args
    have blank : isBlank ' ' = true := by decide
    have rebuilt : s.address ++ ": ".toList ++ s.opcode ++ " ".toList ++ s.args.getD [] =
        (s.address ++ [':']) ++ ' ' :: (s.opcode ++ ' ' :: s.args.getD []) := by simp
    rw [rebuilt, Text.words_append_cons blank, Text.words_append_cons blank, s.words_address,
      s.words_opcode, s.words_text]

/-- Line feeds among the blanks, a colon in the opcode, and blanks behind it that leave
empty args; and args that go on behind a line feed. -/
theorem ofLine_spelled_blanks :
    ofLine "\n0aF:\u2003\n:op\t\n".toList =
      .instruction "0aF".toList ":op".toList (some []) ∧
    Text.words ("0aF".toList ++ ": ".toList ++ ":op".toList ++ " ".toList ++ []) =
      Text.words "\n0aF:\u2003\n:op\t\n".toList ∧
    (¬∃ s : Spelling, s.text = "0: a b\nc".toList) ∧
    ofLine "0: a b\nc".toList = .unformatted "0: a b\nc".toList := by
  obtain ⟨-, -, other, -, words⟩ := ofLine_spelled
  have h : ofLine "\n0aF:\u2003\n:op\t\n".toList =
      .instruction "0aF".toList ":op".toList (some []) := by decide +kernel
  have kept : (ofLine "0: a b\nc".toList).isInstruction = false := by decide +kernel
  have unspelled : ¬∃ s : Spelling, s.text = "0: a b\nc".toList := by
    rintro ⟨s, hs⟩
    rw [← hs, ofLine_text] at kept
    cases kept
  exact ⟨h, words _ _ _ _ h, unspelled, other _ unspelled⟩

end Record
end AsmListing
