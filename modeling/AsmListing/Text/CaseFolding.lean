/-
# Simple case folding

Two characters are variants of each other when they fold to the same character.
Inside ASCII only letters have variants, the other case of the letter and, for
`k` and `s`, one character outside ASCII each: the Kelvin sign and the long s.
Outside ASCII the variants are read off the runs of the folding.
-/

import AsmListing.Text.FoldRuns

namespace AsmListing
namespace CaseFolding

/-- The number of the character that character `n` folds to, for `n` outside
ASCII. -/
def foldNumber (n : Nat) : Nat :=
  match runs.find? (·.has n) with
  | some r => (n + r.shift).toNat
  | none => n

/-- The characters that a run folds to `n`: at most one. -/
def Run.source? (r : Run) (n : Nat) : Option Nat :=
  let m := (n - r.shift).toNat
  if r.has m && m + r.shift = n then some m else none

/-- The variants of a character outside ASCII, itself among them. -/
def wideVariants (c : Char) : List Char :=
  let folded := foldNumber c.toNat
  let ascii := if folded = 's'.toNat then ['S'] else if folded = 'k'.toNat then ['K'] else []
  Char.ofNat folded :: ascii ++ (runs.filterMap (Run.source? · folded)).map Char.ofNat

end CaseFolding

/-- The characters that fold to the same character as `c`, `c` among them. -/
def caseVariants (c : Char) : List Char :=
  if c.toNat < 128 then
    let l := c.toLower
    let u := c.toUpper
    if l = u then [c]
    else if l = 's' then [l, u, 'ſ']
    else if l = 'k' then [l, u, '\u212a']
    else [l, u]
  else CaseFolding.wideVariants c

/-- The case of an ASCII letter does not change its variants. -/
theorem caseVariants_toLower {c : Char} (h : c.toNat < 128) :
    caseVariants c.toLower = caseVariants c := by
  have key : ∀ n : Fin 128,
      caseVariants (Char.ofNat n).toLower = caseVariants (Char.ofNat n) := by decide +kernel
  simpa using key ⟨c.toNat, h⟩

end AsmListing
