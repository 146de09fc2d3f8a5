/-
# Args do not see case

The tokens of args in lower case are the tokens of the args, up to case
(`Args.tokens_lower`): as many, of the same kinds, cut from the same places.  Each
stage of `Args.tokens` has its lemma of this form: the comment (`splitComment_lower`),
the literal (`Literal.pieces_lower`), the registers (`findRegisters_lower`) and the
tokens of the pieces (`filterMap_token?_lower`).
-/

import AsmListing.Proofs.Args.Lossless
import AsmListing.Proofs.Literal.Case

namespace AsmListing
namespace Args

open Architecture (Profile literalStyle)

theorem splitComment_lower (text : Text) :
    splitComment (Text.lower text) =
      (splitComment text).map Text.lower (Option.map Text.lower) := by
  rw [splitComment, splitComment, Text.cutAt_lower (by decide)]
  cases Text.cutAt ';' text with
  | none => rw [Option.map_none, Text.trim_lower]; rfl
  | some parts =>
    dsimp only [Option.map_some]
    rw [Prod.map, Text.trim_lower, Text.trim_lower]
    rfl

theorem registerPieces_lower (registers : Pattern) (text : Text) :
    registerPieces registers (Text.lower text) =
      (registerPieces registers text).map Piece.lower := by
  rw [registerPieces, registerPieces, Pattern.find?_lower]
  cases registers.find? text with
  | none => rfl
  | some hit =>
    dsimp only [Option.map_some]
    rw [Hit.taken_lower]
    rfl

theorem findRegisters_lower (profile : Option Profile) (ps : List Piece) :
    findRegisters profile (ps.map Piece.lower) = (findRegisters profile ps).map Piece.lower := by
  cases profile with
  | none => rfl
  | some p =>
    rw [findRegisters, findRegisters, List.flatMap_map, List.map_flatMap]
    congr 1
    funext piece
    cases piece with
    | rest s => exact registerPieces_lower p.registers s
    | token t => rfl

theorem filterMap_token?_lower (ps : List Piece) :
    (ps.map Piece.lower).filterMap Piece.token? = (ps.filterMap Piece.token?).map Token.lower := by
  rw [List.filterMap_map, List.map_filterMap]
  congr 1
  funext p
  exact Piece.token?_lower p

/-- The operands of a text in lower case are those of the text, up to case. -/
theorem operands_lower (text : Text) (profile : Option Profile) (o : Options) :
    (operands (Text.lower text) profile o).map (List.map Token.lower) =
      (operands text profile o).map (List.map Token.lower) := by
  have staged :
      (List.map Token.lower ∘ fun ps => (findRegisters profile ps).filterMap Piece.token?) =
        (fun ps => (findRegisters profile ps).filterMap Piece.token?) ∘ List.map Piece.lower := by
    funext ps
    rw [Function.comp_apply, Function.comp_apply, findRegisters_lower, filterMap_token?_lower]
  rw [operands, operands, Certain.map_map, Certain.map_map, staged, ← Certain.map_map,
    ← Certain.map_map, Literal.pieces_lower]

/-- **The tokens of args in lower case are those of the args, up to case.** -/
theorem tokens_lower (args : Option Text) (profile : Option Profile) (o : Options) :
    (tokens (args.map Text.lower) profile o).map (List.map Token.lower) =
      (tokens args profile o).map (List.map Token.lower) := by
  cases args with
  | none => rfl
  | some text =>
    have commented : ∀ c : Option Text,
        (List.map Token.lower ∘ fun ts => ts ++ (c.map Token.comment).toList) =
          (fun ts => ts ++ ((c.map Text.lower).map Token.comment).toList) ∘
            List.map Token.lower := by
      intro c
      funext ts
      cases c with
      | none => simp
      | some c => simp [Token.lower]
    rw [Option.map_some, tokens_some, tokens_some, splitComment_lower, Prod.map, Certain.map_map,
      Certain.map_map, commented, commented, ← Certain.map_map, ← Certain.map_map, operands_lower,
      Text.map_lower_map_lower]

end Args
end AsmListing
