/-
# The sample listing

A short 68000 listing with labels and comments, shown where no file is given.
-/

import AsmListing.Text.Basic

namespace AsmListing

/-- The key of the sample's architecture. -/
def sampleKey : Text :=
  "m68k".toList

/-- The lines of the sample listing. -/
def sampleLines : List String := [
  "004A66: moveq   #$2a, D6                       ; D6 stores the offset for the string table" ++
    " - 2A is '1UP'",
  "004A68: jsr     $c100\x7bdisp_string\x7d",
  "004A6E: moveq   #$2b, D6                       ; 0x2B - HISCORE",
  "004A70: jsr     $c100\x7bdisp_string\x7d",
  "004A76: moveq   #$0, D6                        ; 0 - the initial 00 scores under 1UP and" ++
    " HISCORE",
  "004A78: jsr     $c100\x7bdisp_string\x7d",
  "004A7E: tst.w   $40902a\x7bmultiplayer_flag\x7d      ; are we in multiplayer mode?",
  "004A84: beq     $4a96                          ; if not branch below and skip the 2P stuff",
  "004A86: moveq   #$2c, D6                       ; 0x2C - 2UP",
  "004A88: jsr     $c100\x7bdisp_string\x7d",
  "004A8E: moveq   #$2d, D6                       ; 0x2D - MUTEKI, not in revision C",
  "004A90: jsr     $c100\x7bdisp_string\x7d",
  "-- end of routine --"]

/-- The sample listing. -/
def sampleListing : Text :=
  ['\n'].intercalate (sampleLines.map String.toList)

end AsmListing
