/-
# Faults of written patterns

Why a text is not a pattern.
-/

import AsmListing.Text.Basic

namespace AsmListing
namespace Pattern

/-- The cause for which a written pattern is refused. -/
inductive Fault where
  | unopenedGroup
  | unclosedGroup
  | unknownGroup
  | badName
  | repeatedName (name : Text)
  | nothingToRepeat
  | missingCount
  | unclosedCount
  | hugeCount
  | fallingCounts (least most : Nat)
  | unclosedClass
  | unknownClass
  | fallingRange (first last : Char)
  | unfinishedEscape
  | unknownEscape (c : Char)
  deriving DecidableEq, Repr

/-- The cause in words. -/
def Fault.message : Fault → Text
  | unopenedGroup => "a closing parenthesis without an opening one".toList
  | unclosedGroup => "an opening parenthesis without a closing one".toList
  | unknownGroup => "an unknown kind of group".toList
  | badName => "a group name that is empty, unclosed or not a word".toList
  | repeatedName name => "a second group named ".toList ++ name
  | nothingToRepeat => "a repetition of nothing".toList
  | missingCount => "a repetition without its count".toList
  | unclosedCount => "a repetition count without a closing brace".toList
  | hugeCount => "a repetition that is too large".toList
  | fallingCounts least most =>
    "a repetition from ".toList ++ Text.ofNat least ++ " down to ".toList ++ Text.ofNat most
  | unclosedClass => "an opening bracket without a closing one".toList
  | unknownClass => "an unknown operation on character classes".toList
  | fallingRange first last => "a range from ".toList ++ [first] ++ " down to ".toList ++ [last]
  | unfinishedEscape => "a backslash at the end".toList
  | unknownEscape c => "an unknown escape of ".toList ++ [c]

end Pattern
end AsmListing
