/-
# Engines of patterns

Registries need two things of patterns: that a written one can be read, and whether it
has a match in a text.  An engine is a pair of functions for them.  How registries are
put together does not depend on what patterns an engine reads, nor on what it takes for
a match, and is said for all engines at once.

The library has an engine of its own, `Pattern.engine`, which the program uses.  It reads
the forms of patterns that `Lexeme.lean` lists and refuses all others.
-/

import AsmListing.Pattern.Search
import AsmListing.Pattern.Reading

namespace AsmListing

/-- A reader of written patterns, which answers a cause where it refuses one, and a test
for matches. -/
structure Engine (Compiled Cause : Type) where
  /-- The pattern that a text describes. -/
  compile : Text → Except Cause Compiled
  /-- Whether a pattern has a match in a text. -/
  isMatch : Compiled → Text → Bool

namespace Pattern

/-- The flag in front of a written pattern that is matched without regard to case. -/
def caseless : Text :=
  "(?i)".toList

/-- The engine of this library.  It never regards case, so the flag for that changes
nothing. -/
def engine : Engine Pattern Fault where
  compile s := ofText ((Text.after? caseless s).getD s)
  isMatch p s := (p.find? s).isSome

theorem engine_compile_caseless (s : Text) : engine.compile (caseless ++ s) = ofText s := by
  change ofText ((Text.after? caseless (caseless ++ s)).getD _) = _
  rw [Text.after?_eq_some_iff.2 rfl, Option.getD_some]

-- A round of a loop that takes nothing goes on behind the loop, so a part of the body
-- that prefers to take nothing ends it.
example : ((engine.compile "(?i)r(?:b*a*?)*".toList).toOption.bind (·.find? "rba".toList)).map
    Hit.taken = some "rb".toList := by decide +kernel

example : ((engine.compile "(?i)r(?:b|a*?)*".toList).toOption.bind (·.find? "rba".toList)).map
    Hit.taken = some "rba".toList := by decide +kernel

end Pattern
end AsmListing
