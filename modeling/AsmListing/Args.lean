/-
# Argument texts

The args of an instruction are taken apart in a fixed order, and each step sees
only the text that the steps before it have left over:

1. what follows the first semicolon is the comment;
2. the rest has at most one hex literal or symbol;
3. each text before and after it has at most one register, where an
   architecture is known.

Blanks at the ends of the text before the semicolon and of the comment are
dropped.
-/

import AsmListing.Literal
import AsmListing.Text.Blank

namespace AsmListing
namespace Args

open Architecture (Profile literalStyle)

/-- The text before the first semicolon and the comment behind it, both
trimmed. -/
def splitComment (text : Text) : Text × Option Text :=
  match Text.cutAt ';' text with
  | some (left, right) => (Text.trim left, some (Text.trim right))
  | none => (Text.trim text, none)

/-- The pieces of a text around its first register. -/
def registerPieces (registers : Pattern) (text : Text) : List Piece :=
  match registers.find? text with
  | some hit => [.rest hit.before, .token (.register hit.taken), .rest hit.after]
  | none => [.rest text]

/-- The pieces with the registers in their texts found. -/
def findRegisters (profile : Option Profile) (pieces : List Piece) : List Piece :=
  match profile with
  | none => pieces
  | some p =>
    pieces.flatMap fun
      | .rest s => registerPieces p.registers s
      | .token t => [.token t]

/-- The tokens of an argument text without its comment. -/
def operands (text : Text) (profile : Option Profile) (o : Options) :
    Except MissingGroup (List Token) :=
  (Literal.pieces (literalStyle profile) o text).map fun pieces =>
    (findRegisters profile pieces).filterMap Piece.token?

/-- The tokens of the args of an instruction, the comment last. -/
def tokens (args : Option Text) (profile : Option Profile) (o : Options) :
    Except MissingGroup (List Token) :=
  match args with
  | none => .ok []
  | some text =>
    let (left, comment) := splitComment text
    (operands left profile o).map fun ts => ts ++ (comment.map Token.comment).toList

theorem tokens_isOk {profile : Option Profile} (h : (literalStyle profile).complete = true)
    (args : Option Text) (o : Options) : ∃ ts, tokens args profile o = .ok ts := by
  cases args with
  | none => exact ⟨_, rfl⟩
  | some text =>
    obtain ⟨ps, hps⟩ := Literal.pieces_isOk h o (splitComment text).1
    simp only [tokens, operands, hps, Except.map]
    exact ⟨_, rfl⟩

end Args
end AsmListing
