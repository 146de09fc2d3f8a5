/-
# Lines

A line ends at a line feed, or at the end of the text when characters are left.
One carriage return before a line feed belongs to the line end; a carriage
return anywhere else belongs to the line.  The empty text has no lines, and a
final line feed starts no further one.
-/

import AsmListing.Text.Basic

namespace AsmListing
namespace Text

/-- The lines of a text, without their ends. -/
def lines : Text → List Text
  | [] => []
  | '\n' :: s => [] :: lines s
  | '\r' :: '\n' :: s => [] :: lines s
  | c :: s => onFirst c (lines s)

theorem lines_lf (s : Text) : lines ('\n' :: s) = [] :: lines s := by
  rw [lines]

theorem lines_crlf (s : Text) : lines ('\r' :: '\n' :: s) = [] :: lines s := by
  rw [lines]

theorem lines_cons {c : Char} {s : Text} (hn : c ≠ '\n')
    (hr : ∀ t, c = '\r' → s ≠ '\n' :: t) : lines (c :: s) = onFirst c (lines s) := by
  rw [lines]
  · exact hn
  · exact fun t h hs => hr t h hs

end Text
end AsmListing
