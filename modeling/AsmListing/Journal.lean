/-
# The journal

What the program reports while it works: entries of a level and a message.
Functions that compute report nothing themselves; beside each of them stands
the list of the entries that belong to it.
-/

import AsmListing.Text.Basic

namespace AsmListing

/-- How much an entry matters. -/
inductive Level where
  | trace
  | debug
  | info
  | warn
  | error
  deriving DecidableEq, Repr

/-- The name of a level. -/
def Level.name : Level → Text
  | trace => "TRACE".toList
  | debug => "DEBUG".toList
  | info => "INFO".toList
  | warn => "WARN".toList
  | error => "ERROR".toList

/-- One entry of the journal. -/
structure Entry where
  level : Level
  message : Text
  deriving DecidableEq, Repr

end AsmListing
