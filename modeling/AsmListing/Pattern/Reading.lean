/-
# Written patterns: structure

The lexemes of a written pattern are put together from left to right.  Items
gather into a sequence, sequences into the alternatives of a group, and a group
becomes an item of the group around it.  Groups without a name leave no trace
in the pattern; a name may be given once only.

Patterns have no limit on their size, nor on how deep their groups lie in one another.
-/

import AsmListing.Pattern.Lexeme

namespace AsmListing
namespace Pattern

/-- A group of which only a part is read: its finished alternatives and the
items of the next one, the latest first in both. -/
structure OpenGroup where
  alternatives : List Pattern
  items : List Pattern
  deriving DecidableEq, Repr

namespace OpenGroup

/-- A group of which nothing is read. -/
def fresh : OpenGroup :=
  ⟨[], []⟩

/-- The group with one more item. -/
def add (g : OpenGroup) (p : Pattern) : OpenGroup :=
  { g with items := p :: g.items }

/-- The group with its last alternative finished. -/
def next (g : OpenGroup) : OpenGroup :=
  ⟨sequence g.items.reverse :: g.alternatives, []⟩

/-- The pattern that the group stands for once it is closed. -/
def close (g : OpenGroup) : Pattern :=
  choice g.next.alternatives.reverse

/-- The group with its last item repeated. -/
def repeatLast (g : OpenGroup) (r : Repetition) : Except Fault OpenGroup :=
  match g.items with
  | [] => .error .nothingToRepeat
  | p :: items => .ok { g with items := p.times r :: items }

end OpenGroup

/-- What has been read of a pattern: the innermost open group, the groups
around it with their names, and all names given. -/
structure Draft where
  current : OpenGroup
  outer : List (Option Text × OpenGroup)
  names : List Text
  deriving DecidableEq, Repr

namespace Draft

/-- Nothing has been read. -/
def blank : Draft :=
  ⟨OpenGroup.fresh, [], []⟩

/-- One more lexeme is read. -/
def step (d : Draft) (l : Lexeme) : Except Fault Draft :=
  match l with
  | .item p => .ok { d with current := d.current.add p }
  | .bar => .ok { d with current := d.current.next }
  | .repeated r => (d.current.repeatLast r).map fun g => { d with current := g }
  | .opening none => .ok { d with current := .fresh, outer := (none, d.current) :: d.outer }
  | .opening (some name) =>
    if name ∈ d.names then .error (.repeatedName name)
    else .ok ⟨.fresh, (some name, d.current) :: d.outer, name :: d.names⟩
  | .closing =>
    match d.outer with
    | [] => .error .unopenedGroup
    | (none, g) :: outer => .ok { d with current := g.add d.current.close, outer := outer }
    | (some name, g) :: outer =>
      .ok { d with current := g.add (group name d.current.close), outer := outer }

/-- The pattern that has been read, when no group is left open. -/
def finish (d : Draft) : Except Fault Pattern :=
  if d.outer.isEmpty then .ok d.current.close else .error .unclosedGroup

end Draft

/-- The pattern that a text describes. -/
def ofText (s : Text) : Except Fault Pattern := do
  let lexemes ← Lexeme.ofText 0 s
  let draft ← lexemes.foldlM Draft.step Draft.blank
  draft.finish

end Pattern
end AsmListing
