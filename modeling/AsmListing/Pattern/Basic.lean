/-
# Patterns

A pattern describes pieces of text.  Its forms are few; the repetitions `?`,
`*`, `{n}`, `{n,}` and `{n,m}` are built from them:

| written | pattern |
| --- | --- |
| `p?` | `alt p empty`, lazily `alt empty p` |
| `p+` | `plus p` |
| `p*` | `star p`, but `(p+)?` where `p` may take nothing |
| `p{n}` | `p` written `n` times |
| `p{n,}` | `p*` for `n = 0`, else `p{n-1}` and then `p+` |
| `p{n,m}` | `p{n}` and then `(p(p(…)?)?)?`, `m - n` deep |
-/

import AsmListing.Text.Basic
import AsmListing.Pattern.CharSet

namespace AsmListing

/-- A pattern.  The first branch of an alternative is preferred, and a loop
prefers another round when it is `eager`. -/
inductive Pattern where
  | empty
  | one (set : CharSet)
  /-- The position before the whole text. -/
  | atStart
  /-- The position behind the whole text. -/
  | atEnd
  | seq (p q : Pattern)
  | alt (p q : Pattern)
  /-- A piece to be found again under a name. -/
  | group (name : Text) (p : Pattern)
  /-- One or more rounds. -/
  | plus (p : Pattern) (eager : Bool)
  /-- Any number of rounds, of which each takes something. -/
  | star (p : Pattern) (eager : Bool)
  deriving DecidableEq, Repr

namespace Pattern

/-- Nothing more than the patterns one behind the other. -/
def sequence : List Pattern → Pattern
  | [] => empty
  | [p] => p
  | p :: ps => seq p (sequence ps)

/-- Any of the patterns, the earlier the better. -/
def choice : List Pattern → Pattern
  | [] => empty
  | [p] => p
  | p :: ps => alt p (choice ps)

/-- `p` or nothing. -/
def optional (p : Pattern) (eager : Bool) : Pattern :=
  if eager then alt p empty else alt empty p

/-- Whether a way through the pattern may take nothing. -/
def nullable : Pattern → Bool
  | empty | atStart | atEnd => true
  | one _ => false
  | seq p q => p.nullable && q.nullable
  | alt p q => p.nullable || q.nullable
  | group _ p => p.nullable
  | plus p _ => p.nullable
  | star _ _ => true

/-- Any number of rounds of `p`. -/
def repeated (p : Pattern) (eager : Bool) : Pattern :=
  if p.nullable then optional (plus p eager) eager else star p eager

/-- At most `n` rounds of `p`. -/
def upTo (p : Pattern) (eager : Bool) : Nat → Pattern
  | 0 => empty
  | 1 => optional p eager
  | n + 1 => optional (seq p (upTo p eager n)) eager

/-- How often, and how eagerly, a repetition repeats. -/
structure Repetition where
  least : Nat
  /-- No bound when absent. -/
  most : Option Nat
  eager : Bool
  deriving DecidableEq, Repr

/-- `p` repeated. -/
def times (p : Pattern) (r : Repetition) : Pattern :=
  match r.least, r.most with
  | 0, none => repeated p r.eager
  | n + 1, none => sequence (List.replicate n p ++ [plus p r.eager])
  | n, some m =>
    if n = m then sequence (List.replicate n p)
    else sequence (List.replicate n p ++ [upTo p r.eager (m - n)])

end Pattern
end AsmListing
