/-
# Patterns that leave no choice

Some parts of a pattern can be gone through in one way only, or have one way that is
always the preferred one.  For those `through` has a closed form.  A sequence is gone
through one part at a time (`through_sequence_cons`).  An eager loop over a set takes the
whole run of members ahead (`through_run`), provided that one can go on from the end of
the run, or that one can never go on in front of a member: in both cases it makes no
difference that the loop could stop earlier (`Settled`).

`Trail.around` is what a group leaves on a trail, and `Trail.within` the same where only
text is taken in the group.  The lemmas on them tell what the groups of such a trail hold.

A search takes the first place that can be gone through from (`findFrom_of_first`).
-/

import AsmListing.Pattern.Search

namespace AsmListing

namespace Trail

/-- The trail that takes a text and meets no group. -/
def ofText (s : Text) : Trail :=
  s.map Mark.char

/-- The trail through a group, around the trail in it. -/
def around (name : Text) (t : Trail) : Trail :=
  .enter name :: t ++ [.leave name]

/-- The trail through a group in which a text is taken. -/
def within (name s : Text) : Trail :=
  .enter name :: ofText s ++ [.leave name]

theorem taken_ofText (s : Text) : taken (ofText s) = s := by
  induction s with
  | nil => rfl
  | cons c s ih => exact congrArg (c :: ·) ih

theorem taken_within (name s : Text) : taken (within name s) = s := by
  change taken (ofText s ++ [.leave name]) = s
  rw [taken_append, taken_ofText]
  exact List.append_nil s

/-- Marks of other groups do not end what is taken in a group. -/
theorem takenWithin_append {name : Text} {t : Trail} (h : Mark.leave name ∉ t) (u : Trail) :
    takenWithin name (t ++ u) = taken t ++ takenWithin name u := by
  induction t with
  | nil => rfl
  | cons m t ih =>
    have later := ih fun hm => h (List.mem_cons_of_mem _ hm)
    cases m with
    | char c => exact congrArg (c :: ·) later
    | enter n => exact later
    | leave n =>
      have other : n ≠ name := by
        rintro rfl
        exact h (List.mem_cons_self ..)
      rw [List.cons_append, takenWithin, if_neg other]
      exact later

/-- A group that is not entered holds what it holds later on. -/
theorem group?_append {name : Text} {t : Trail} (h : Mark.enter name ∉ t) (u : Trail) :
    group? name (t ++ u) = group? name u := by
  induction t with
  | nil => rfl
  | cons m t ih =>
    have later := ih fun hm => h (List.mem_cons_of_mem _ hm)
    cases m with
    | char c | leave n => exact later
    | enter n =>
      have other : n ≠ name := by
        rintro rfl
        exact h (List.mem_cons_self ..)
      rw [List.cons_append, group?, if_neg other, Option.or_none]
      exact later

/-- **A group that is left for good holds what was taken in it.** -/
theorem group?_around {name : Text} {t : Trail} (he : Mark.enter name ∉ t)
    (hl : Mark.leave name ∉ t) (u : Trail) :
    group? name (around name t ++ u) = (group? name u).or (some (taken t)) := by
  have inside : around name t ++ u = .enter name :: (t ++ .leave name :: u) := by simp [around]
  rw [inside, group?, group?_append he, takenWithin_append hl, if_pos rfl]
  simp [group?, takenWithin]

/-- A group has nothing to do with what others hold. -/
theorem group?_around_of_ne {name other : Text} (h : other ≠ name) {t : Trail}
    (he : Mark.enter name ∉ t) (u : Trail) : group? name (around other t ++ u) = group? name u :=
  group?_append (by simp [around, he, h.symm]) u

theorem not_mem_ofText {m : Mark} (h : ∀ c, m ≠ .char c) (s : Text) : m ∉ ofText s := by
  intro hm
  obtain ⟨c, -, rfl⟩ := List.mem_map.1 hm
  exact h c rfl

theorem group?_within (name s : Text) (t : Trail) :
    group? name (within name s ++ t) = (group? name t).or (some s) := by
  have held := group?_around (not_mem_ofText (m := .enter name) (by simp) s)
    (not_mem_ofText (by simp) s) t
  rwa [taken_ofText] at held

theorem group?_within_of_ne {name other : Text} (h : other ≠ name) (s : Text) (t : Trail) :
    group? name (within other s ++ t) = group? name t :=
  group?_around_of_ne h (not_mem_ofText (by simp) s) t

end Trail

namespace Pattern

theorem through_sequence_cons (p : Pattern) (ps : List Pattern) (b : Bool) (s : Text) (k : Onward) :
    (sequence (p :: ps)).through b s k =
      p.through b s fun b r => (sequence ps).through b r k := by
  cases ps with
  | nil => rfl
  | cons q qs => exact through_seq ..

/-- An optional part is gone through where it leads on. -/
theorem through_optional (p : Pattern) (b : Bool) (s : Text) (k : Onward) :
    (optional p true).through b s k = (p.through b s k).or (k b s) :=
  through_alt p empty b s k

/-- It makes no difference that an eager loop over a set could stop before the end of the run
of members ahead: one can go on from this end, or else from no place in front of a member
in the run. -/
def Settled (set : CharSet) (k : Onward) (s : Text) : Prop :=
  (k false (s.dropWhile set.has)).isSome = true ∨
    ∀ b c r, set.has c = true → (c :: r).dropWhile set.has = s.dropWhile set.has →
      k b (c :: r) = none

namespace Settled

variable {set : CharSet} {k : Onward} {s : Text}

/-- One can go on from the end of the run. -/
theorem goes (h : (k false (s.dropWhile set.has)).isSome = true) : Settled set k s :=
  .inl h

/-- One can never go on in front of a member. -/
theorem stuck (h : ∀ b c r, set.has c = true → k b (c :: r) = none) : Settled set k s :=
  .inr fun b c r hc _ => h b c r hc

theorem tail {c : Char} (h : Settled set k (c :: s)) (hc : set.has c = true) :
    Settled set k s := by
  rw [Settled, List.dropWhile_cons_of_pos hc] at h
  exact h

theorem map (h : Settled set k s) (f : Trail → Trail) :
    Settled set (fun b r => (k b r).map f) s := by
  refine h.imp (fun goes => ?_) fun stuck b c r hc hr => ?_
  · rwa [Option.isSome_map]
  · exact congrArg (Option.map f) (stuck b c r hc hr)

end Settled

/-- Further rounds of an eager loop over a set. -/
theorem behindRound_run {set : CharSet} {k : Onward} {s : Text} (hk : Settled set k s) (b : Bool) :
    (one set).behindRound true k b s =
      (k false (s.dropWhile set.has)).map (Trail.ofText (s.takeWhile set.has) ++ ·) := by
  induction s generalizing b with
  | nil =>
    have no_round : (plus (one set) true).through false [] k = none := rfl
    simp [behindRound, no_round, preferred, Trail.ofText]
  | cons c s ih =>
    rw [behindRound, through_plus rfl, through_one, preferred, if_pos rfl]
    by_cases hc : set.has c = true
    · rw [if_pos hc, ih (hk.tail hc), List.dropWhile_cons_of_pos hc, List.takeWhile_cons_of_pos hc,
        Option.map_map]
      rcases hk with goes | stuck
      · -- the longest run goes on, so no shorter one is asked for
        rw [List.dropWhile_cons_of_pos hc] at goes
        obtain ⟨t, ht⟩ := Option.isSome_iff_exists.1 goes
        rw [ht]
        rfl
      · rw [stuck false c s hc rfl, Option.or_none]
        rfl
    · rw [List.dropWhile_cons_of_neg hc, List.takeWhile_cons_of_neg hc, if_neg hc]
      simp [Trail.ofText]

/-- **An eager loop over a set takes the run of members ahead,** when one can go on from
its end or else never in front of a member. -/
theorem through_run {set : CharSet} {k : Onward} {s : Text} (hk : Settled set k s) (b : Bool) :
    (plus (one set) true).through b s k =
      if s.takeWhile set.has = [] then none
      else (k false (s.dropWhile set.has)).map (Trail.ofText (s.takeWhile set.has) ++ ·) := by
  rw [through_plus rfl]
  cases s with
  | nil => rfl
  | cons c s =>
    rw [through_one]
    by_cases hc : set.has c = true
    · rw [if_pos hc, behindRound_run (hk.tail hc), List.dropWhile_cons_of_pos hc,
        List.takeWhile_cons_of_pos hc, if_neg (List.cons_ne_nil _ _), Option.map_map]
      rfl
    · rw [if_neg hc, List.takeWhile_cons_of_neg hc, if_pos rfl]

/-- The same for a loop that need not take anything. -/
theorem through_anyRun {set : CharSet} {k : Onward} {s : Text} (hk : Settled set k s) (b : Bool) :
    (star (one set) true).through b s k =
      (k (b && (s.takeWhile set.has).isEmpty) (s.dropWhile set.has)).map
        (Trail.ofText (s.takeWhile set.has) ++ ·) := by
  rw [through_star rfl, ← through_plus rfl, through_run hk, preferred, if_pos rfl]
  cases s with
  | nil => simp [Trail.ofText]
  | cons c s =>
    by_cases hc : set.has c = true
    · rw [List.takeWhile_cons_of_pos hc, if_neg (List.cons_ne_nil _ _), List.isEmpty_cons,
        Bool.and_false]
      rcases hk with goes | stuck
      · obtain ⟨t, ht⟩ := Option.isSome_iff_exists.1 goes
        rw [ht]
        rfl
      · rw [stuck b c s hc rfl, Option.or_none]
    · rw [List.dropWhile_cons_of_neg hc, List.takeWhile_cons_of_neg hc, if_pos rfl]
      simp [Trail.ofText]

/-- The run within a group. -/
theorem through_group_run {name : Text} {set : CharSet} {k : Onward} {s : Text}
    (hk : Settled set k s) (b : Bool) :
    (group name (plus (one set) true)).through b s k =
      if s.takeWhile set.has = [] then none
      else (k false (s.dropWhile set.has)).map (Trail.within name (s.takeWhile set.has) ++ ·) := by
  rw [through_group, through_run (hk.map _)]
  split
  · rfl
  · rw [Option.map_map, Option.map_map]
    congr 1
    funext t
    simp [Trail.within]

/-- Nothing is found where no place can be gone through from. -/
theorem findFrom_eq_none {p : Pattern} {s : Text}
    (none_at : ∀ b n, p.through b (s.drop n) accept = none) (b : Bool) :
    p.findFrom b s = none := by
  induction s generalizing b with
  | nil =>
    have front : p.through b [] accept = none := none_at b 0
    rw [findFrom_nil, front]
    rfl
  | cons c s ih =>
    have front : p.through b (c :: s) accept = none := none_at b 0
    rw [findFrom_cons, front, ih fun b n => none_at b (n + 1)]
    rfl

/-- A pattern that starts with the start of the text is found there or not at all. -/
theorem find?_anchored (ps : List Pattern) (s : Text) :
    (sequence (atStart :: ps)).find? s =
      ((sequence ps).through true s accept).map (Hit.atFront s) := by
  have later : ∀ s, (sequence (atStart :: ps)).findFrom false s = none := by
    intro s
    induction s with
    | nil => rw [findFrom_nil, through_sequence_cons]; rfl
    | cons c s ih => rw [findFrom_cons, through_sequence_cons, ih]; rfl
  rw [find?]
  cases s with
  | nil => rw [findFrom_nil, through_sequence_cons]; rfl
  | cons c s =>
    rw [findFrom_cons, through_sequence_cons, through_atStart, if_pos rfl, later]
    cases (sequence ps).through true (c :: s) accept <;> rfl

/-- **A search finds the first place that can be gone through from,** where it makes no
difference whether the text starts there. -/
theorem findFrom_of_first {p : Pattern} {s : Text} {n : Nat} {t : Trail}
    (here : ∀ b, p.through b (s.drop n) accept = some t)
    (earlier : ∀ b, ∀ k < n, p.through b (s.drop k) accept = none) (b : Bool) :
    p.findFrom b s = some ⟨s.take n, t, (s.drop n).drop t.taken.length⟩ := by
  induction n generalizing b s with
  | zero =>
    have front : p.through b s accept = some t := here b
    cases s with
    | nil => rw [findFrom_nil, front]; rfl
    | cons c s => rw [findFrom_cons, front]; rfl
  | succ n ih =>
    have front : p.through b s accept = none := earlier b 0 n.succ_pos
    cases s with
    | nil =>
      -- behind the end there is no other place than the end
      have found : p.through b [] accept = some t := here b
      rw [front] at found
      cases found
    | cons c s =>
      have later := ih here fun b k hk => earlier b (k + 1) (Nat.succ_lt_succ hk)
      rw [findFrom_cons, front, later]
      rfl

end Pattern
end AsmListing
