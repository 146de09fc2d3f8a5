/-
# Blank characters

The characters with the Unicode property `White_Space`, and the three ways in
which they cut a text: into a trimmed text (`trim`), into a leading run and the
rest (`leading`, `afterBlanks`), and into the words between them (`words`).
-/

import AsmListing.Text.Basic

namespace AsmListing

/-- The 25 characters with the property `White_Space`. -/
def isBlank (c : Char) : Bool :=
  let n := c.toNat
  (9 ≤ n && n ≤ 13) || n = 0x20 || n = 0x85 || n = 0xA0 || n = 0x1680 ||
    (0x2000 ≤ n && n ≤ 0x200A) || n = 0x2028 || n = 0x2029 || n = 0x202F || n = 0x205F ||
    n = 0x3000

namespace Text

/-- The text behind its leading blanks. -/
def trimLeft (s : Text) : Text :=
  s.dropWhile isBlank

/-- The text before its trailing blanks. -/
def trimRight (s : Text) : Text :=
  (s.reverse.dropWhile isBlank).reverse

/-- The text without the blanks at its two ends. -/
def trim (s : Text) : Text :=
  trimRight (trimLeft s)

/-- The maximal runs of characters that are not blank, in order. -/
def words : Text → List Text
  | [] => []
  | c :: s =>
    if isBlank c then words s
    else if s.head?.all isBlank then [c] :: words s
    else onFirst c (words s)

theorem words_cons_of_isBlank {c : Char} (h : isBlank c = true) (s : Text) :
    words (c :: s) = words s := by
  rw [words, if_pos h]

end Text
end AsmListing
