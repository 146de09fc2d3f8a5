/-
# Palettes

The colours of the four themes, one for each part of a listing.
-/

import AsmListing.Token

namespace AsmListing

/-- A colour: eight bits each of red, green and blue. -/
structure Color where
  code : Nat
  deriving DecidableEq, Repr

/-- A colour as a style sheet writes it: a number sign and six hex digits. -/
def Color.text (c : Color) : Text :=
  let digits := Nat.toDigits 16 c.code
  '#' :: List.replicate (6 - digits.length) '0' ++ digits

/-- The themes, from light to dark. -/
inductive Theme where
  | latte
  | frappe
  | macchiato
  | mocha
  deriving DecidableEq, Repr

namespace Theme

/-- All themes. -/
def all : List Theme :=
  [latte, frappe, macchiato, mocha]

/-- The name of a theme. -/
def name : Theme → Text
  | latte => "Latte".toList
  | frappe => "Frappe".toList
  | macchiato => "Macchiato".toList
  | mocha => "Mocha".toList

/-- The theme of a name. -/
def ofName? (name : Text) : Option Theme :=
  all.find? fun t => t.name = name

theorem ofName?_name (t : Theme) : ofName? t.name = some t := by
  cases t <;> decide

end Theme

/-- The colours of the parts of a listing. -/
structure Palette where
  address : Color
  opcode : Color
  text : Color
  hexMarker : Color
  hexDigits : Color
  size : Color
  symbol : Color
  register : Color
  comment : Color
  unformatted : Color
  deriving DecidableEq, Repr

namespace Palette

/-- The palette of a theme. -/
def ofTheme : Theme → Palette
  | .latte =>
    { address := ⟨0x7c7f93⟩, opcode := ⟨0x40a02b⟩, text := ⟨0x4c4f69⟩,
      hexMarker := ⟨0xdf8e1d⟩, hexDigits := ⟨0xfe640b⟩, size := ⟨0x179299⟩,
      symbol := ⟨0x8839ef⟩, register := ⟨0x1e66f5⟩, comment := ⟨0x8c8fa1⟩,
      unformatted := ⟨0x6c6f85⟩ }
  | .frappe =>
    { address := ⟨0x949cbb⟩, opcode := ⟨0xa6d189⟩, text := ⟨0xc6d0f5⟩,
      hexMarker := ⟨0xe5c890⟩, hexDigits := ⟨0xef9f76⟩, size := ⟨0x81c8be⟩,
      symbol := ⟨0xca9ee6⟩, register := ⟨0x8caaee⟩, comment := ⟨0x838ba7⟩,
      unformatted := ⟨0xa5adce⟩ }
  | .macchiato =>
    { address := ⟨0x939ab7⟩, opcode := ⟨0xa6da95⟩, text := ⟨0xcad3f5⟩,
      hexMarker := ⟨0xeed49f⟩, hexDigits := ⟨0xf5a97f⟩, size := ⟨0x8bd5ca⟩,
      symbol := ⟨0xc6a0f6⟩, register := ⟨0x8aadf4⟩, comment := ⟨0x8087a2⟩,
      unformatted := ⟨0xa5adcb⟩ }
  | .mocha =>
    { address := ⟨0x9399b2⟩, opcode := ⟨0xa6e3a1⟩, text := ⟨0xcdd6f4⟩,
      hexMarker := ⟨0xf9e2af⟩, hexDigits := ⟨0xfab387⟩, size := ⟨0x94e2d5⟩,
      symbol := ⟨0xcba6f7⟩, register := ⟨0x89b4fa⟩, comment := ⟨0x7f849c⟩,
      unformatted := ⟨0xa6adc8⟩ }

/-- The colour of a style. -/
def color (p : Palette) : StyleClass → Color
  | .hexMarker => p.hexMarker
  | .hexDigits => p.hexDigits
  | .size => p.size
  | .symbol => p.symbol
  | .register => p.register
  | .comment => p.comment
  | .plain => p.text

/-- The colour of the style of a name; an unknown name has the colour of plain
text. -/
def colorOfName (p : Palette) (name : Text) : Color :=
  p.color ((StyleClass.ofName? name).getD .plain)

end Palette
end AsmListing
