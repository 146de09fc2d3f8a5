/-
# Trails

A trail records one way through a pattern: the characters taken and, among
them, where groups are entered and left.  A group that is entered more than
once holds what was taken the last time.
-/

import AsmListing.Text.Basic

namespace AsmListing

/-- What happens on the way through a pattern. -/
inductive Mark where
  | char (c : Char)
  | enter (name : Text)
  | leave (name : Text)
  deriving DecidableEq, Repr

/-- One way through a pattern. -/
abbrev Trail := List Mark

namespace Trail

/-- The text taken on a trail. -/
def taken : Trail → Text
  | [] => []
  | .char c :: t => c :: taken t
  | .enter _ :: t => taken t
  | .leave _ :: t => taken t

/-- The text taken until a group is left. -/
def takenWithin (name : Text) : Trail → Text
  | [] => []
  | .char c :: t => c :: takenWithin name t
  | .enter _ :: t => takenWithin name t
  | .leave n :: t => if n = name then [] else takenWithin name t

/-- The text that a group holds, if it was entered. -/
def group? (name : Text) : Trail → Option Text
  | [] => none
  | .enter n :: t => (group? name t).or (if n = name then some (takenWithin name t) else none)
  | .char _ :: t => group? name t
  | .leave _ :: t => group? name t

theorem taken_append (t u : Trail) : taken (t ++ u) = taken t ++ taken u := by
  induction t with
  | nil => rfl
  | cons m t ih => cases m <;> simp [taken, ih]

/-- A group holds a text when it was entered. -/
theorem group?_isSome_iff {name : Text} {t : Trail} :
    (group? name t).isSome = true ↔ Mark.enter name ∈ t := by
  induction t with
  | nil => simp [group?]
  | cons m t ih =>
    cases m with
    | char c => simp [group?, ih]
    | leave n => simp [group?, ih]
    | enter n =>
      by_cases h : n = name
      · simp [group?, h]
      · simp [group?, h, ih, Ne.symm h]

end Trail
end AsmListing
