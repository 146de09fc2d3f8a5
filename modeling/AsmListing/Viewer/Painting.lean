/-
# Painting a listing

A painted listing is a row of texts, each in one style.  The address and the
opcode of an instruction are padded to two more columns than the widest of the
listing, so that all args start in the same column.
-/

import AsmListing.Document
import AsmListing.Viewer.Palette

namespace AsmListing

/-- How a text is painted. -/
inductive Ink where
  /-- As the controls of the window are. -/
  | control
  | color (c : Color)
  | italic (c : Color)
  | underline (c : Color)
  deriving DecidableEq, Repr

/-- The description of an ink: its colour and its emphasis. -/
def Ink.text : Ink → Text
  | control => "ui".toList
  | color c => c.text
  | italic c => c.text ++ " italic".toList
  | underline c => c.text ++ " underline".toList

/-- A text in one style. -/
structure Stroke where
  text : Text
  ink : Ink
  deriving DecidableEq, Repr

namespace Painting

/-- The number of characters that some tokens are shown as. -/
def shownWidth (ts : List Token) : Nat :=
  ts.foldr (fun t n => t.text.length + n) 0

/-- The width of a line's address. -/
def addressWidth : Line → Nat
  | .instruction address _ _ => address.length
  | .unformatted _ => 0

/-- The width of a line's opcode. -/
def opcodeWidth : Line → Nat
  | .instruction _ opcode _ => shownWidth opcode
  | .unformatted _ => 0

/-- The greatest value of `f` on some lines, 0 where there are none. -/
def widest (f : Line → Nat) (lines : List Line) : Nat :=
  lines.foldr (fun l n => max (f l) n) 0

/-- The number of characters in some strokes. -/
def paintedWidth (strokes : List Stroke) : Nat :=
  strokes.foldr (fun k n => k.text.length + n) 0

/-- The strokes of an opcode: plain parts have a colour of their own. -/
def opcodeStrokes (p : Palette) (opcode : List Token) : List Stroke :=
  opcode.flatMap fun t => t.spans.map fun (s, k) =>
    ⟨s, .color (if k = .plain then p.opcode else p.color k)⟩

/-- The strokes of a token of the args: a symbol is underlined, and a comment
shows only its sign. -/
def argStrokes (p : Palette) (glyph : Text) (t : Token) : List Stroke :=
  match t with
  | .symbol label _ _ _ => [⟨label, .underline p.symbol⟩]
  | .comment _ => [⟨glyph, .color p.comment⟩]
  | t => t.spans.map fun (s, k) => ⟨s, .color (p.color k)⟩

/-- The strokes of a line between columns of the given widths. -/
def lineStrokes (p : Palette) (glyph : Text) (addresses opcodes : Nat) (l : Line) : List Stroke :=
  match l with
  | .instruction address opcode args =>
    let used := paintedWidth (opcodeStrokes p opcode)
    [⟨Text.padTo addresses address ++ [' ', ' '], .color p.address⟩] ++
      opcodeStrokes p opcode ++
      [⟨List.replicate (opcodes - used + 2) ' ', .color p.text⟩] ++
      args.flatMap (argStrokes p glyph)
  | .unformatted t => [⟨t.source, .italic p.unformatted⟩]

/-- The strokes of each line of a document. -/
def rows (p : Palette) (d : Document) : List (List Stroke) :=
  let addresses := widest addressWidth d.lines
  let opcodes := widest opcodeWidth d.lines
  d.lines.map (lineStrokes p d.commentGlyph addresses opcodes)

/-- The strokes of a document: its caption, if it has one, and its lines. -/
def document (p : Palette) (d : Document) : List Stroke :=
  (d.caption.map fun s => (⟨s, .control⟩ : Stroke)).toList ++ (rows p d).flatten

/-- The texts of some strokes, joined. -/
def joined (strokes : List Stroke) : Text :=
  strokes.flatMap Stroke.text

end Painting
end AsmListing
