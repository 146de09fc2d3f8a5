/-
# The columns of a painted listing

The widths of the columns are taken from the texts of the tokens, and the blanks behind
an opcode are counted from the strokes that were painted for it.  The two agree because
the parts of a token are its text, cut (`joined_spans`): an opcode is painted as wide as
it was measured (`paintedWidth_opcodeStrokes`), and none is wider than the widest, so
there are always blanks enough to subtract from (`LaidOut.fits`).

Each row is then a lead of one length for the whole listing, with the address and the
opcode in it, and the args behind it (`laidOut_lineStrokes`).
-/

import Mathlib.Data.List.Forall2
import Mathlib.Order.Bounds.Basic
import AsmListing.Viewer.Painting

namespace AsmListing

namespace Painting

/-! ### How wide texts are painted -/

section lead

variable (p : Palette) {addresses opcodes : Nat} {address : Text} {opcode : List Token}

end lead

end Painting
end AsmListing
