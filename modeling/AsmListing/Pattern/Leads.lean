/-
# Ways through a pattern

A way leads through a pattern from a place of a text to a later place, or to the same
one, and leaves a trail.  A place is given by the text ahead and a flag that tells
whether the text before it is empty.  Ways know no preference; which of them a search
follows is the matter of `Pattern.through`.

The rounds of a loop take something, except that a way may end with a round that takes
nothing.
-/

import AsmListing.Pattern.Basic
import AsmListing.Pattern.Trail

namespace AsmListing
namespace Pattern

/-- A way through a pattern: from a place, with a trail, to a place. -/
inductive Leads : Pattern → Bool → Text → Trail → Bool → Text → Prop where
  | empty (b s) : Leads .empty b s [] b s
  | one {set c} (b s) (h : set.has c = true) : Leads (.one set) b (c :: s) [.char c] false s
  | atStart (s) : Leads .atStart true s [] true s
  | atEnd (b) : Leads .atEnd b [] [] b []
  | seq {p q b s t b' s' u b'' s''} (hp : Leads p b s t b' s') (hq : Leads q b' s' u b'' s'') :
    Leads (.seq p q) b s (t ++ u) b'' s''
  | altLeft {p b s t b' s'} (q) (h : Leads p b s t b' s') : Leads (.alt p q) b s t b' s'
  | altRight {q b s t b' s'} (p) (h : Leads q b s t b' s') : Leads (.alt p q) b s t b' s'
  | group {p b s t b' s'} (name) (h : Leads p b s t b' s') :
    Leads (.group name p) b s (.enter name :: t ++ [.leave name]) b' s'
  | plusLast {p b s t b' s'} (eager) (h : Leads p b s t b' s') : Leads (.plus p eager) b s t b' s'
  | plusMore {p eager b s t b' s' u b'' s''} (hp : Leads p b s t b' s')
    (hs : s'.length < s.length) (hq : Leads (.plus p eager) false s' u b'' s'') :
    Leads (.plus p eager) b s (t ++ u) b'' s''
  | starNone (p eager b s) : Leads (.star p eager) b s [] b s
  | starSome {p eager b s t b' s'} (h : Leads (.plus p eager) b s t b' s') :
    Leads (.star p eager) b s t b' s'

namespace Leads

variable {p : Pattern} {b b' : Bool} {s s' : Text} {t : Trail}

/-- The text ahead is the text taken and what is left. -/
theorem taken_append (h : Leads p b s t b' s') : t.taken ++ s' = s := by
  induction h with
  | empty | atStart | atEnd | starNone => rfl
  | one b s h => rfl
  | seq _ _ hp hq => rw [Trail.taken_append, List.append_assoc, hq, hp]
  | altLeft _ _ ih | altRight _ _ ih | plusLast _ _ ih | starSome _ ih => exact ih
  | group name _ ih => simpa [Trail.taken, Trail.taken_append] using ih
  | plusMore _ _ _ hp hq => rw [Trail.taken_append, List.append_assoc, hq, hp]

/-- What is left on a way is an end of the text ahead. -/
theorem isSuffix (h : Leads p b s t b' s') : s' <:+ s :=
  ⟨t.taken, h.taken_append⟩

/-- A way stays at its place, or it takes something and ends behind some text. -/
theorem stays_or_takes (h : Leads p b s t b' s') :
    b' = b ∧ s' = s ∨ b' = false ∧ s'.length < s.length := by
  induction h with
  | empty | atStart | atEnd | starNone => exact .inl ⟨rfl, rfl⟩
  | one => exact .inr ⟨rfl, Nat.lt_succ_self _⟩
  | altLeft _ _ ih | altRight _ _ ih | group _ _ ih | plusLast _ _ ih | starSome _ ih => exact ih
  | seq _ _ hp hq =>
    rcases hp with ⟨rfl, rfl⟩ | ⟨rfl, hp⟩
    · exact hq
    · rcases hq with ⟨rfl, rfl⟩ | ⟨rfl, hq⟩
      · exact .inr ⟨rfl, hp⟩
      · exact .inr ⟨rfl, Nat.lt_trans hq hp⟩
  | plusMore _ hs _ _ hq =>
    rcases hq with ⟨rfl, rfl⟩ | ⟨rfl, hq⟩
    · exact .inr ⟨rfl, hs⟩
    · exact .inr ⟨rfl, Nat.lt_trans hq hs⟩

theorem eq_false_of_lt (h : Leads p b s t b' s') (hs : s'.length < s.length) : b' = false := by
  rcases h.stays_or_takes with ⟨-, rfl⟩ | ⟨hb, -⟩
  · exact absurd hs (Nat.lt_irrefl _)
  · exact hb

/-- A way that stays at its place keeps the flag. -/
theorem flag_eq (h : Leads p b s t b' s) : b' = b :=
  (h.stays_or_takes.resolve_right fun h => Nat.lt_irrefl _ h.2).1

end Leads
end Pattern
end AsmListing
