/-
# Quoted texts

The written form of a text between quotation marks, in which every character
can be seen: a quotation mark or backslash gets a backslash, the four commonest
controls their letter, and a character that is unprintable or joins the one
before it is written by its number in hexadecimal.
-/

import AsmListing.Text.Basic
import AsmListing.Text.UnprintableRanges
import AsmListing.Text.ExtendingRanges

namespace AsmListing

/-- Whether a number lies in one of the ranges, ends included. -/
def inRanges (ranges : List (Nat × Nat)) (n : Nat) : Bool :=
  ranges.any fun (lo, hi) => lo ≤ n && n ≤ hi

/-- Whether a character has a form of its own on paper and joins no other. -/
def standsAlone (c : Char) : Bool :=
  let n := c.toNat
  if n < 127 then 32 ≤ n
  else !inRanges Extending.ranges n && !inRanges Unprintable.ranges n

namespace Text

/-- The characters that stand for `c` in a quoted text. -/
def quotedChar (c : Char) : Text :=
  match c with
  | '\x00' => ['\\', '0']
  | '\t' => ['\\', 't']
  | '\r' => ['\\', 'r']
  | '\n' => ['\\', 'n']
  | '"' => ['\\', '"']
  | '\\' => ['\\', '\\']
  | c =>
    if standsAlone c then [c]
    else ['\\', 'u', '\x7b'] ++ Nat.toDigits 16 c.toNat ++ ['\x7d']

/-- The quoted form of a text. -/
def quoted (s : Text) : Text :=
  '"' :: s.flatMap quotedChar ++ ['"']

example : quoted "a\"\t'".toList = "\"a\\\"\\t'\"".toList := by decide +kernel

end Text
end AsmListing
