/-
# Ways in their order of preference

A search follows the ways through a pattern in an order of preference.  A part of a
pattern tries its ways in this order and takes the first from which the search can go
on, so the first of two alternatives wins whenever it leads to a match at all.

The text is gone over once, from its end to its start.  At each place a pattern has an
answer, the preferred trail from there (`Pattern.enter`), and keeps for each of its sets
of characters how to go on behind a member of the set (`Pattern.keep`); both are found
from what it keeps of the next place.

No part of a pattern is entered twice at one place.  So the first round of a loop is the
last if it takes nothing, and a further round goes only through the parts that have not
been gone through since the last character that was taken.  While a pattern keeps how
to go on behind a character, it therefore passes along the answer of going through it
`anew` at the same place, around those parts.  As a further round always takes
something, that answer too comes from what is kept of the next place.
-/

import AsmListing.Pattern.Basic
import AsmListing.Pattern.Trail

namespace AsmListing
namespace Pattern

/-- What a pattern keeps of a place: for each set of characters, how to go on from there
behind a member. -/
@[reducible]
def Memory : Pattern → Type
  | empty | atStart | atEnd => Unit
  | one _ => Option Trail
  | seq p q | alt p q => Memory p × Memory q
  | group _ p | plus p _ | star p _ => Memory p

/-- What is kept behind the end of the text. -/
def blank : (p : Pattern) → Memory p
  | empty | atStart | atEnd => ()
  | one _ => none
  | seq p q | alt p q => (blank p, blank q)
  | group _ p | plus p _ | star p _ => blank p

/-- The preferred of two trails, with a further round of a loop and behind the loop. -/
@[macro_inline]
def preferred (eager : Bool) (more behind : Option Trail) : Option Trail :=
  if eager then more.or behind else behind.or more

theorem preferred_eq_some {eager : Bool} {more behind : Option Trail} {t : Trail}
    (h : preferred eager more behind = some t) : more = some t ∨ behind = some t := by
  cases eager
  · exact (Option.or_eq_some_iff.1 h).symm.imp And.right id
  · exact (Option.or_eq_some_iff.1 h).imp id And.right

theorem isSome_preferred {eager : Bool} {more behind : Option Trail} :
    (preferred eager more behind).isSome = true ↔ more.isSome = true ∨ behind.isSome = true := by
  cases eager
  · simp [preferred, or_comm]
  · simp [preferred]

/-- The answer of a pattern that is entered at a place, from what it keeps of the next
place: `b` tells whether the text before is empty, `c?` is the character ahead, and `k`
is how to go on if nothing is taken. -/
def enter : (p : Pattern) → Memory p → (b : Bool) → (c? : Option Char) → (k : Option Trail) →
    Option Trail
  | empty, _, _, _, k => k
  | one set, next, _, c?, _ =>
    match c? with
    | some c => if set.has c then next.map (Mark.char c :: ·) else none
    | none => none
  | atStart, _, b, _, k => if b then k else none
  | atEnd, _, _, c?, k => if c?.isNone then k else none
  | seq p q, next, b, c?, k => p.enter next.1 b c? (q.enter next.2 b c? k)
  | alt p q, next, b, c?, k => (p.enter next.1 b c? k).or (q.enter next.2 b c? k)
  | group name p, next, b, c?, k =>
    (p.enter next b c? (k.map (Mark.leave name :: ·))).map (Mark.enter name :: ·)
  | plus p _, next, b, c?, k => p.enter next b c? k
  | star p eager, next, b, c?, k => preferred eager (p.enter next b c? none) k

/-- What a pattern keeps of a place, from what it keeps of the next place: `k` is how to
go on behind the pattern, from the answer of going through it `anew`, which is asked for
only where a loop makes a further round. -/
def keep : (p : Pattern) → Memory p → (c? : Option Char) →
    (k : (anew : Unit → Option Trail) → Option Trail) → Memory p
  | empty, _, _, _ | atStart, _, _, _ | atEnd, _, _, _ => ()
  | one set, next, c?, k => k fun _ => (one set).enter next false c? none
  | seq p q, next, c?, k =>
    (p.keep next.1 c? fun anew => q.enter next.2 false c? (k anew),
      q.keep next.2 c? fun anew => k fun _ => p.enter next.1 false c? (anew ()))
  | alt p q, next, c?, k =>
    (p.keep next.1 c? fun anew => k fun _ => (anew ()).or (q.enter next.2 false c? none),
      q.keep next.2 c? fun anew => k fun _ => (p.enter next.1 false c? none).or (anew ()))
  | group name p, next, c?, k =>
    p.keep next c? fun anew =>
      (k fun _ => (anew ()).map (Mark.enter name :: ·)).map (Mark.leave name :: ·)
  | plus p eager, next, c?, k =>
    p.keep next c? fun anew => preferred eager (anew ()) (k anew)
  | star p eager, next, c?, k =>
    -- behind a round the loop itself is entered at this place, so it is not entered anew
    p.keep next c? fun anew => preferred eager (anew ()) (k fun _ => none)

/-- How a trail goes on at a place, if it can: the flag tells whether the text
before is empty, and the text is what lies ahead. -/
abbrev Onward := Bool → Text → Option Trail

/-- Every place is an end. -/
def accept : Onward :=
  fun _ _ => some []

/-- What is kept of the place in front of a text, if `k` says how to go on behind the
pattern. -/
def memory (p : Pattern) (k : Onward) : Text → Memory p
  | [] => p.keep p.blank none fun _ => k false []
  | c :: s => p.keep (memory p k s) (some c) fun _ => k false (c :: s)

/-- What is kept of the next place. -/
def ahead (p : Pattern) (k : Onward) : Text → Memory p
  | [] => p.blank
  | _ :: s => p.memory k s

theorem memory_eq (p : Pattern) (k : Onward) (s : Text) :
    p.memory k s = p.keep (p.ahead k s) s.head? fun _ => k false s := by
  cases s <;> rfl

/-- The preferred trail through a pattern from the front of a text, and on from there as
`k` says. -/
def through (p : Pattern) (b : Bool) (s : Text) (k : Onward) : Option Trail :=
  p.enter (p.ahead k s) b s.head? (k b s)

/-- The answers at the places of a text, the last of them behind it, and what is kept of
the first. -/
def sweep (p : Pattern) : Bool → Text → List (Option Trail) × Memory p
  | b, [] => ([p.enter p.blank b none (some [])], p.keep p.blank none fun _ => some [])
  | b, c :: s =>
    let later := sweep p false s
    (p.enter later.2 b (some c) (some []) :: later.1,
      p.keep later.2 (some c) fun _ => some [])

/-- The preferred trails through a pattern from the places of a text, the last
of them behind it. -/
def answers (p : Pattern) (b : Bool) (s : Text) : List (Option Trail) :=
  (p.sweep b s).1

theorem sweep_snd (p : Pattern) (b : Bool) (s : Text) : (p.sweep b s).2 = p.memory accept s := by
  induction s generalizing b with
  | nil => rfl
  | cons c s ih => rw [sweep, memory, ih]; rfl

theorem answers_nil (p : Pattern) (b : Bool) : p.answers b [] = [p.through b [] accept] :=
  rfl

/-- **The first answer is the preferred trail from the front of the text, and the
others are the answers of the text behind its first character.** -/
theorem answers_cons (p : Pattern) (b : Bool) (c : Char) (s : Text) :
    p.answers b (c :: s) = p.through b (c :: s) accept :: p.answers false s := by
  rw [answers, sweep, sweep_snd]
  rfl

end Pattern
end AsmListing
