/-
# Architectures as written down

A definition gives an architecture's key and name, how it marks hex literals,
whether its opcodes carry sizes, and what its registers are called.  The marker
and the registers are written patterns.  For registers that start alike the
longer name has to come first (`r1[0-5]` before `r[0-9]`), since the earlier
alternative is the one that is tried.

The patterns looked for in a listing are put together from those texts:
`literalPattern` around the marker, `registerPattern` around the registers.
-/

import AsmListing.Text.Basic

namespace AsmListing
namespace Architecture

/-- An architecture as written down. -/
structure Definition where
  key : Text
  name : Text
  /-- The pattern of the marker of a hex literal. -/
  marker : Text
  /-- The marker follows the digits. -/
  markerLast : Bool
  /-- A value that starts with a letter is written with a leading zero. -/
  zeroLed : Bool
  /-- Opcodes may end with a size suffix. -/
  sizedOpcodes : Bool
  /-- The pattern of the register names. -/
  registers : Text
  deriving DecidableEq, Repr

namespace GroupName

/-- The group of the marker. -/
def marker : Text := "notation".toList

/-- The group of the digits. -/
def digits : Text := "value".toList

/-- The group of the size behind a literal. -/
def size : Text := "size".toList

/-- The group of the label behind a literal. -/
def label : Text := "label".toList

end GroupName

/-- The written pattern of hex literals with a given marker: the marker and the
digits in their order, then perhaps a size, then perhaps a label in braces. -/
def literalPattern (marker : Text) (markerLast : Bool) : Text :=
  let marker := "(?P<notation>".toList ++ marker ++ ")".toList
  let digits := "(?P<value>[0-9a-f]+)".toList
  (if markerLast then digits ++ marker else marker ++ digits) ++
    "(?P<size>\\.[qlwb])?".toList ++ "(?:\\\x7b(?P<label>[^\x7d]+)\\\x7d)?".toList

/-- The written pattern of registers with given names. -/
def registerPattern (registers : Text) : Text :=
  "(?:".toList ++ registers ++ ")".toList

/-- The marker where no architecture is chosen: a dollar sign or `0x`. -/
def genericMarker : Text :=
  "\\$|0x".toList

/-- The architectures that are always known. -/
def definitions : List Definition := [
  { key := "m68k".toList, name := "Motorola M68000".toList, marker := "\\$".toList,
    markerLast := false, zeroLed := false, sizedOpcodes := true,
    registers := "pc|sr|ccr|[us]sp|sp|d[0-7]|a[0-7]".toList },
  { key := "sh2".toList, name := "Hitachi SH-2".toList, marker := "\\$".toList,
    markerLast := false, zeroLed := false, sizedOpcodes := true,
    registers := "pc|sr|gbr|r1[0-5]|r[0-9]".toList },
  { key := "z80".toList, name := "Zilog Z80".toList, marker := "\\$".toList,
    markerLast := false, zeroLed := false, sizedOpcodes := false,
    registers :=
      "pc|sp|af'|af|a|f|bc'|bc|b|c|de'|de|d|e|hl'|hl|h|l|ei[xy]|i|r".toList },
  { key := "6502".toList, name := "MOS 6502".toList, marker := "\\$".toList,
    markerLast := false, zeroLed := false, sizedOpcodes := false,
    registers := "pc|sp|a|x|y|p".toList },
  { key := "i960".toList, name := "Intel i960".toList, marker := "0x".toList,
    markerLast := false, zeroLed := false, sizedOpcodes := false,
    registers := "pc|sp|r1[0-5]|r[0-9]|g1[0-5]|g[0-9]".toList },
  { key := "h8".toList, name := "Hitachi H8".toList, marker := "h'".toList,
    markerLast := false, zeroLed := false, sizedOpcodes := true,
    registers := "pc|ccr|r[0-7][hl]|r[0-7]".toList },
  { key := "8086".toList, name := "Intel 8086/8088".toList, marker := "h".toList,
    markerLast := true, zeroLed := true, sizedOpcodes := false,
    registers := "pc|[acdb][xhl]|[sb]p|[sd]i|[cdse]s".toList },
  { key := "x86".toList, name := "Intel x86 (32bit)".toList, marker := "h".toList,
    markerLast := true, zeroLed := true, sizedOpcodes := false,
    registers :=
      ("pc|e[acdb]x|[acdb][xhl]|e[sb]p|[sb]p|e[sd]i|[sd]i|[cdsefg]s" ++
        "|dr[0-7]|cr[0-7]|tr[3-7]").toList },
  { key := "arm".toList, name := "ARM".toList, marker := "\\$".toList,
    markerLast := false, zeroLed := false, sizedOpcodes := false,
    registers := "pc|r1[0-5]|r[0-9]".toList }]

end Architecture
end AsmListing
