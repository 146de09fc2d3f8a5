/-
# Records

A line of a listing is an instruction when it has the form

    blanks? address ":" blanks opcode (blanks args)?

where the address is a row of ASCII hex digits, the opcode has no blanks, and
the args start with no blank and hold no line feed.  Every other line is kept
as it is.  Blanks behind the opcode that nothing follows leave args that are
present and empty.
-/

import AsmListing.Text.Blank
import AsmListing.Text.Lines
import AsmListing.Text.Quoted
import AsmListing.Journal

namespace AsmListing

/-- Whether `c` is a hex digit of either case. -/
def isHexDigit (c : Char) : Bool :=
  c.isDigit || ('a' ≤ c && c ≤ 'f') || ('A' ≤ c && c ≤ 'F')

/-- What a line of a listing says. -/
inductive Record where
  | unformatted (text : Text)
  | instruction (address opcode : Text) (args : Option Text)
  deriving DecidableEq, Repr

namespace Record

/-- Whether the record is an instruction. -/
def isInstruction : Record → Bool
  | instruction .. => true
  | unformatted _ => false

/-- The args in the text behind an opcode: absent when nothing is left, and
refused when they would hold a line feed. -/
def args? (tail : Text) : Option (Option Text) :=
  if tail.isEmpty then some none
  else
    let args := Text.trimLeft tail
    if '\n' ∈ args then none else some (some args)

/-- The opcode and the args in the text behind the colon. -/
def opcode? (rest : Text) : Option (Text × Option Text) :=
  let body := Text.trimLeft rest
  let opcode := body.takeWhile fun c => !isBlank c
  if opcode.isEmpty || !rest.head?.any isBlank then none
  else (args? (body.dropWhile fun c => !isBlank c)).map fun args => (opcode, args)

/-- The instruction on a line, if it has one. -/
def instruction? (line : Text) : Option Record :=
  let body := Text.trimLeft line
  let address := body.takeWhile isHexDigit
  match body.dropWhile isHexDigit with
  | ':' :: rest =>
    if address.isEmpty then none
    else (opcode? rest).map fun (opcode, args) => instruction address opcode args
  | _ => none

/-- What a line says: an instruction if it has the form of one. -/
def ofLine (line : Text) : Record :=
  (instruction? line).getD (unformatted line)

/-- What the lines of a text say. -/
def ofText (s : Text) : List Record :=
  (Text.lines s).map ofLine

/-- The entry about a line that is no instruction. -/
def unformattedEntry (line : Text) : Entry :=
  ⟨.trace, "Unformatted line: ".toList ++ Text.quoted line⟩

/-- The entries about a row of records: one for each that is no instruction. -/
def journal (rs : List Record) : List Entry :=
  rs.filterMap fun
    | unformatted line => some (unformattedEntry line)
    | instruction .. => none

end Record
end AsmListing
