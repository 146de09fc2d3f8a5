/-
# Opcodes

On architectures with sized opcodes an opcode may end with a point and one of
the letters `q`, `l`, `w`, `b` of either case; that suffix is a token of its
own.
-/

import AsmListing.Token
import AsmListing.Architecture.Profile

namespace AsmListing
namespace Opcode

/-- The letters of sizes. -/
def isSizeLetter (c : Char) : Bool :=
  c.toLower ∈ ['q', 'l', 'w', 'b']

/-- The size suffix that an opcode ends with, and what comes before it. -/
def splitSize : Text → Option (Text × Text)
  | [] => none
  | ['.', c] => if isSizeLetter c then some ([], ['.', c]) else none
  | c :: s => (splitSize s).map fun (stem, suffix) => (c :: stem, suffix)

theorem append_of_splitSize {s stem suffix : Text} (h : splitSize s = some (stem, suffix)) :
    s = stem ++ suffix := by
  fun_induction splitSize s generalizing stem with
  | case1 => cases h
  | case2 c hc => simp only [Option.some.injEq, Prod.mk.injEq] at h; simp [← h.1, ← h.2]
  | case3 => cases h
  | case4 c s _ ih =>
    obtain ⟨⟨stem', suffix'⟩, h', e⟩ := Option.map_eq_some_iff.1 h
    simp only [Prod.mk.injEq] at e
    rw [← e.1, ih (by rw [h', e.2]), List.cons_append]

/-- The tokens of an opcode. -/
def tokens (opcode : Text) (profile : Option Architecture.Profile) : List Token :=
  if profile.any (·.definition.sizedOpcodes) then
    match splitSize opcode with
    | some ([], suffix) => [.sizeSuffix suffix]
    | some (stem, suffix) => [.plain stem, .sizeSuffix suffix]
    | none => [.plain opcode]
  else [.plain opcode]

end Opcode
end AsmListing
