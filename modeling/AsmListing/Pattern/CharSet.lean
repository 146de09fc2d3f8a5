/-
# Sets of characters

A set names its members by ranges, unions and complements.  Ranges are read
without regard to case: a character belongs to a range when one of its case
variants lies in it.  A complement is taken after that, so that `[^a]` excludes
both cases of the letter.
-/

import AsmListing.Text.CaseFolding

namespace AsmListing

/-- A set of characters, up to case. -/
inductive CharSet where
  | none
  | range (first last : Char)
  | union (s t : CharSet)
  | compl (s : CharSet)
  deriving DecidableEq, Repr

namespace CharSet

/-- Whether `c` belongs to the set. -/
def has : CharSet → Char → Bool
  | none, _ => false
  | range first last, c => (caseVariants c).any fun d => first ≤ d && d ≤ last
  | union s t, c => s.has c || t.has c
  | compl s, c => !s.has c

/-- The set of the case variants of one character. -/
def single (c : Char) : CharSet :=
  range c c

/-- The characters of any of the sets. -/
def unions (sets : List CharSet) : CharSet :=
  sets.foldl union none

/-- Every character but a line feed. -/
def dot : CharSet :=
  compl (single '\n')

/-- The blank characters. -/
def blank : CharSet :=
  unions [range '\t' '\r', single ' ', single '\u0085', single '\u00a0', single '\u1680',
    range '\u2000' '\u200a', range '\u2028' '\u2029', single '\u202f', single '\u205f',
    single '\u3000']

/-- Characters with the same variants belong to the same sets. -/
theorem has_congr {c d : Char} (h : caseVariants c = caseVariants d) (s : CharSet) :
    s.has c = s.has d := by
  induction s with
  | none => rfl
  | range => simp [has, h]
  | union s t hs ht => simp [has, hs, ht]
  | compl s hs => simp [has, hs]

end CharSet
end AsmListing
