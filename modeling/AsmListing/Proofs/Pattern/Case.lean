/-
# Patterns do not see case

A set of characters has both cases of a letter or neither (`CharSet.has_toLower`).
So a pattern finds in a text in lower case what it finds in the text itself, put into
lower case (`Pattern.find?_lower`): at the same place, taken in the same way, and with
the same groups (`Hit.group?_lower`).

What carries this through the patterns is a relation between two ways of going on:
one does in lower case what the other does (`Pattern.Lowers`).  It holds before a
pattern when it holds behind it (`Pattern.through_lower`), since what a pattern keeps of
a place in lower case is what it keeps of the place, put into lower case
(`Pattern.keep_lower`).
-/

import AsmListing.Pattern.Search
import AsmListing.Proofs.Text.Case

namespace AsmListing

/-- A set has both cases of a letter or neither. -/
theorem CharSet.has_toLower (set : CharSet) (c : Char) : set.has c.toLower = set.has c := by
  by_cases hc : c.toNat < 128
  · exact has_congr (caseVariants_toLower hc) set
  · rw [toLower_of_wide hc]

/-- The mark with its character in lower case. -/
def Mark.lower : Mark → Mark
  | char c => char c.toLower
  | enter name => enter name
  | leave name => leave name

namespace Trail

/-- The trail with all its characters in lower case. -/
def lower (t : Trail) : Trail :=
  t.map Mark.lower

theorem taken_lower (t : Trail) : taken (lower t) = Text.lower (taken t) := by
  induction t with
  | nil => rfl
  | cons m t ih =>
    cases m with
    | char c => exact congrArg (c.toLower :: ·) ih
    | enter name => exact ih
    | leave name => exact ih

theorem takenWithin_lower (name : Text) (t : Trail) :
    takenWithin name (lower t) = Text.lower (takenWithin name t) := by
  induction t with
  | nil => rfl
  | cons m t ih =>
    cases m with
    | char c => exact congrArg (c.toLower :: ·) ih
    | enter n => exact ih
    | leave n =>
      change takenWithin name (.leave n :: lower t) = _
      by_cases hn : n = name
      · rw [takenWithin, if_pos hn, takenWithin, if_pos hn]
        rfl
      · rw [takenWithin, if_neg hn, takenWithin, if_neg hn, ih]

theorem group?_lower (name : Text) (t : Trail) :
    group? name (lower t) = (group? name t).map Text.lower := by
  induction t with
  | nil => rfl
  | cons m t ih =>
    cases m with
    | char c => exact ih
    | leave n => exact ih
    | enter n =>
      change group? name (.enter n :: lower t) = _
      rw [group?, group?, ih, takenWithin_lower, Option.map_or]
      by_cases hn : n = name
      · rw [if_pos hn, if_pos hn]
        rfl
      · rw [if_neg hn, if_neg hn]
        rfl

end Trail

namespace Hit

/-- The match with all its texts in lower case. -/
def lower (h : Hit) : Hit :=
  ⟨Text.lower h.before, h.trail.lower, Text.lower h.after⟩

theorem taken_lower (h : Hit) : h.lower.taken = Text.lower h.taken :=
  Trail.taken_lower h.trail

/-- The groups hold what they held, in lower case. -/
theorem group?_lower (h : Hit) (name : Text) :
    h.lower.group? name = (h.group? name).map Text.lower :=
  Trail.group?_lower name h.trail

theorem atFront_lower (s : Text) (t : Trail) :
    atFront (Text.lower s) t.lower = (atFront s t).lower := by
  rw [atFront, Trail.taken_lower, Text.length_lower, Text.lower, ← List.map_drop]
  rfl

end Hit

namespace Pattern

/-- `k'` does in lower case what `k` does. -/
def Lowers (k k' : Onward) : Prop :=
  ∀ b s, k' b (Text.lower s) = (k b s).map Trail.lower

/-- A memory with all its trails in lower case. -/
def Memory.lower : (p : Pattern) → Memory p → Memory p
  | .empty, _ | .atStart, _ | .atEnd, _ => ()
  | .one _, kept => kept.map Trail.lower
  | .seq p q, kept | .alt p q, kept => (Memory.lower p kept.1, Memory.lower q kept.2)
  | .group _ p, kept | .plus p _, kept | .star p _, kept => Memory.lower p kept

/-- One more mark in front. -/
theorem map_cons_lower (m : Mark) (k : Option Trail) :
    (k.map Trail.lower).map (m.lower :: ·) = (k.map (m :: ·)).map Trail.lower := by
  rw [Option.map_map, Option.map_map]
  rfl

theorem preferred_lower (eager : Bool) (more behind : Option Trail) :
    preferred eager (more.map Trail.lower) (behind.map Trail.lower) =
      (preferred eager more behind).map Trail.lower := by
  cases eager <;> exact Option.map_or.symm

/-- A pattern that is entered does not see case. -/
theorem enter_lower (p : Pattern) (next : Memory p) (b : Bool) (c? : Option Char)
    (k : Option Trail) :
    p.enter (Memory.lower p next) b (c?.map Char.toLower) (k.map Trail.lower) =
      (p.enter next b c? k).map Trail.lower := by
  induction p generalizing b k with
  | empty => rfl
  | one set =>
    cases c? with
    | none => rfl
    | some c =>
      change (if set.has c.toLower then _ else none) = Option.map _ (if set.has c then _ else none)
      rw [CharSet.has_toLower]
      by_cases hc : set.has c = true
      · rw [if_pos hc, if_pos hc]
        exact map_cons_lower (.char c) next
      · rw [if_neg hc, if_neg hc]
        rfl
  | atStart => cases b <;> rfl
  | atEnd => cases c? <;> rfl
  | seq p q hp hq => rw [enter, enter, Memory.lower, hq, hp]
  | alt p q hp hq => rw [enter, enter, Memory.lower, hp, hq, Option.map_or]
  | group name p hp =>
    have inside := map_cons_lower (.leave name) k
    have around := map_cons_lower (.enter name) (p.enter next b c? (k.map (Mark.leave name :: ·)))
    rw [enter, enter, ← around, ← hp, ← inside]
    rfl
  | plus p eager hp => exact hp ..
  | star p eager hp =>
    exact (congrArg (preferred eager · _) (hp next b none)).trans (preferred_lower ..)

/-- What a pattern keeps does not see case when what comes behind it does not. -/
theorem keep_lower (p : Pattern) (next : Memory p) (c? : Option Char)
    {k k' : (Unit → Option Trail) → Option Trail}
    (hk : ∀ anew anew', anew' () = (anew ()).map Trail.lower →
      k' anew' = (k anew).map Trail.lower) :
    p.keep (Memory.lower p next) (c?.map Char.toLower) k' = Memory.lower p (p.keep next c? k) := by
  induction p generalizing k k' with
  | empty | atStart | atEnd => rfl
  | one set => exact hk _ _ (enter_lower (.one set) next false c? none)
  | seq p q hp hq =>
    refine Prod.ext (hp next.1 fun anew anew' h => ?_)
      (hq next.2 fun anew anew' h => hk _ _ ?_)
    · rw [hk anew anew' h]
      exact enter_lower q ..
    · rw [h]
      exact enter_lower p ..
  | alt p q hp hq =>
    refine Prod.ext (hp next.1 fun anew anew' h => hk _ _ ?_)
      (hq next.2 fun anew anew' h => hk _ _ ?_)
    · rw [h, Option.map_or, ← enter_lower q]
      rfl
    · rw [h, Option.map_or, ← enter_lower p]
      rfl
  | group name p hp =>
    refine hp next fun anew anew' h => ?_
    rw [← map_cons_lower (.leave name)]
    refine congrArg (Option.map _) (hk _ _ ?_)
    rw [h]
    exact map_cons_lower (.enter name) (anew ())
  | plus p eager hp =>
    refine hp next fun anew anew' h => ?_
    rw [hk anew anew' h, h, preferred_lower]
  | star p eager hp =>
    refine hp next fun anew anew' h => ?_
    rw [h, hk (fun _ => none) (fun _ => none) rfl, preferred_lower]

theorem blank_lower (p : Pattern) : Memory.lower p p.blank = p.blank := by
  induction p with
  | empty | one | atStart | atEnd => rfl
  | seq p q hp hq | alt p q hp hq => exact Prod.ext hp hq
  | group name p hp | plus p eager hp | star p eager hp => exact hp

theorem ahead_lower (p : Pattern) {k k' : Onward} (hk : Lowers k k') (s : Text) :
    p.ahead k' (Text.lower s) = Memory.lower p (p.ahead k s) := by
  induction s with
  | nil => exact (blank_lower p).symm
  | cons c s ih =>
    change p.memory k' (Text.lower s) = Memory.lower p (p.memory k s)
    have head : (Text.lower s).head? = s.head?.map Char.toLower := List.head?_map
    rw [memory_eq, ih, head, memory_eq]
    exact keep_lower p _ _ fun _ _ _ => hk false s

/-- **A pattern does not see case.**  It does not when what comes behind it does not. -/
theorem through_lower (p : Pattern) {k k' : Onward} (hk : Lowers k k') (b : Bool) (s : Text) :
    p.through b (Text.lower s) k' = (p.through b s k).map Trail.lower := by
  have head : (Text.lower s).head? = s.head?.map Char.toLower := List.head?_map
  rw [through, ahead_lower p hk, head, hk b s]
  exact enter_lower p ..

/-- The first match in a text in lower case is that in the text, in lower case. -/
theorem findFrom_lower (p : Pattern) (b : Bool) (s : Text) :
    p.findFrom b (Text.lower s) = (p.findFrom b s).map Hit.lower := by
  have first : ∀ b s, p.through b (Text.lower s) accept = (p.through b s accept).map Trail.lower :=
    p.through_lower fun _ _ => rfl
  induction s generalizing b with
  | nil =>
    have front : Hit.atFront [] ∘ Trail.lower = Hit.lower ∘ Hit.atFront [] :=
      funext fun t => Hit.atFront_lower [] t
    calc p.findFrom b []
        = (p.through b [] accept).map (Hit.atFront []) := findFrom_nil p b
      _ = ((p.through b [] accept).map Trail.lower).map (Hit.atFront []) :=
        congrArg _ (first b [])
      _ = (p.findFrom b []).map Hit.lower := by
        rw [findFrom_nil, Option.map_map, Option.map_map, front]
  | cons c s ih =>
    change p.findFrom b (c.toLower :: Text.lower s) = _
    have front := first b (c :: s)
    change p.through b (c.toLower :: Text.lower s) accept = _ at front
    rw [findFrom_cons, findFrom_cons, front]
    cases p.through b (c :: s) accept with
    | some t => exact congrArg some (Hit.atFront_lower (c :: s) t)
    | none =>
      change Option.map _ _ = Option.map _ (Option.map _ _)
      rw [ih, Option.map_map, Option.map_map]
      rfl

/-- **Matches are the same in both cases.** -/
theorem find?_lower (p : Pattern) (s : Text) :
    p.find? (Text.lower s) = (p.find? s).map Hit.lower :=
  p.findFrom_lower true s

end Pattern
end AsmListing
