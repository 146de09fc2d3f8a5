/-
# Records do not see case

A line in lower case has the record of the line, in lower case (`Record.ofLine_lower`):
it is an instruction or none as the line is, and its address, opcode and args begin and
end at the same places.  Each part is found by marks and characters that case does not
change, so the lemmas follow the parts from the innermost one outwards.
-/

import AsmListing.Record
import AsmListing.Proofs.Text.Case

namespace AsmListing

theorem isHexDigit_toLower (c : Char) : isHexDigit c.toLower = isHexDigit c :=
  congr_toLower isHexDigit (by decide) c

namespace Record

/-- The record with all its texts in lower case. -/
def lower : Record → Record
  | unformatted text => unformatted (Text.lower text)
  | instruction address opcode args =>
    instruction (Text.lower address) (Text.lower opcode) (args.map Text.lower)

theorem args?_lower (tail : Text) :
    args? (Text.lower tail) = (args? tail).map (Option.map Text.lower) := by
  cases tail with
  | nil => rfl
  | cons c s =>
    change (if '\n' ∈ Text.trimLeft (Text.lower (c :: s)) then none else some (some _)) =
      Option.map _ (if '\n' ∈ Text.trimLeft (c :: s) then none else some (some _))
    rw [Text.trimLeft_lower]
    by_cases hn : '\n' ∈ Text.trimLeft (c :: s)
    · rw [if_pos hn, if_pos ((Text.mem_lower_iff (by decide)).2 hn)]
      rfl
    · rw [if_neg hn, if_neg (mt (Text.mem_lower_iff (by decide)).1 hn)]
      rfl

theorem opcode?_lower (rest : Text) :
    opcode? (Text.lower rest) =
      (opcode? rest).map (Prod.map Text.lower (Option.map Text.lower)) := by
  have word : ∀ c, (!isBlank c.toLower) = !isBlank c := fun c => by rw [isBlank_toLower]
  unfold opcode?
  dsimp only
  rw [Text.trimLeft_lower, Text.takeWhile_lower word, Text.dropWhile_lower word, args?_lower,
    Text.any_head?_lower isBlank_toLower, Text.isEmpty_lower]
  split
  · rfl
  · rw [Option.map_map, Option.map_map]
    rfl

theorem instruction?_lower (line : Text) :
    instruction? (Text.lower line) = (instruction? line).map lower := by
  unfold instruction?
  dsimp only
  rw [Text.trimLeft_lower, Text.takeWhile_lower isHexDigit_toLower,
    Text.dropWhile_lower isHexDigit_toLower, Text.isEmpty_lower]
  rcases (Text.trimLeft line).dropWhile isHexDigit with _ | ⟨c, rest⟩
  · rfl
  · by_cases hc : c = ':'
    · subst hc
      change (if _ then none else Option.map _ (opcode? (Text.lower rest))) =
        Option.map lower (if _ then none else Option.map _ (opcode? rest))
      rw [opcode?_lower]
      split
      · rfl
      · rw [Option.map_map, Option.map_map]
        rfl
    · have hl : c.toLower ≠ ':' := mt (toLower_eq_iff (by decide)).1 hc
      split
      · next h => exact absurd (List.cons.inj h).1 hl
      · split
        · next h => exact absurd (List.cons.inj h).1 hc
        · rfl

/-- **A line in lower case says what the line says.** -/
theorem ofLine_lower (line : Text) : ofLine (Text.lower line) = (ofLine line).lower := by
  rw [ofLine, ofLine, instruction?_lower]
  cases instruction? line <;> rfl

/-- So do the lines of a text. -/
theorem ofText_lower (s : Text) : ofText (Text.lower s) = (ofText s).map lower := by
  rw [ofText, ofText, Text.lines_lower, List.map_map, List.map_map]
  exact List.map_congr_left fun line _ => ofLine_lower line

end Record
end AsmListing
