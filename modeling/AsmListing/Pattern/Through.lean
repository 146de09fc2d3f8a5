/-
# Through the parts of a pattern

The preferred trail through a pattern is found part by part, just as the ways are
(`through_seq`, `through_alt`, `through_group`, `through_one`): what a pattern keeps of a
place is what its parts keep of it, each with its own way to go on.  A loop whose rounds
always take something makes its rounds one behind the other (`through_plus`,
`through_star`), since a round that has to take something comes upon no part that was
gone through at the same place (`keep_of_not_nullable`).

A trail through a pattern is a way through it and the trail on from there
(`exists_leads_of_through`).  What carries this from place to place is that all that a
pattern keeps of a place leads on to behind the pattern (`LeadsOn`).
-/

import AsmListing.Pattern.Leads
import AsmListing.Pattern.Sweep

namespace AsmListing
namespace Pattern

/-! ### The parts of a pattern -/

theorem through_empty (b : Bool) (s : Text) (k : Onward) : empty.through b s k = k b s :=
  rfl

theorem through_atStart (b : Bool) (s : Text) (k : Onward) :
    atStart.through b s k = if b then k b s else none :=
  rfl

theorem through_atEnd (b : Bool) (s : Text) (k : Onward) :
    atEnd.through b s k = if s.isEmpty then k b s else none := by
  cases s <;> rfl

theorem through_one_nil (set : CharSet) (b : Bool) (k : Onward) :
    (one set).through b [] k = none :=
  rfl

theorem through_one (set : CharSet) (b : Bool) (c : Char) (s : Text) (k : Onward) :
    (one set).through b (c :: s) k =
      if set.has c then (k false s).map (Mark.char c :: ·) else none := by
  have kept : (one set).memory k s = k false s := by cases s <;> rfl
  rw [through, ahead, kept]
  rfl

theorem ahead_seq (p q : Pattern) (k : Onward) (s : Text) :
    (seq p q).ahead k s = (p.ahead (fun b r => q.through b r k) s, q.ahead k s) := by
  have memory_seq : ∀ s, (seq p q).memory k s =
      (p.memory (fun b r => q.through b r k) s, q.memory k s) := by
    intro s
    induction s with
    | nil => rfl
    | cons c s ih => simp only [memory, ih]; rfl
  cases s with
  | nil => rfl
  | cons c s => exact memory_seq s

/-- The first part of a sequence goes on with the second. -/
theorem through_seq (p q : Pattern) (b : Bool) (s : Text) (k : Onward) :
    (seq p q).through b s k = p.through b s fun b r => q.through b r k := by
  rw [through, ahead_seq]
  rfl

theorem ahead_alt (p q : Pattern) (k : Onward) (s : Text) :
    (alt p q).ahead k s = (p.ahead k s, q.ahead k s) := by
  have memory_alt : ∀ s, (alt p q).memory k s = (p.memory k s, q.memory k s) := by
    intro s
    induction s with
    | nil => rfl
    | cons c s ih => simp only [memory, ih]; rfl
  cases s with
  | nil => rfl
  | cons c s => exact memory_alt s

theorem through_alt (p q : Pattern) (b : Bool) (s : Text) (k : Onward) :
    (alt p q).through b s k = (p.through b s k).or (q.through b s k) := by
  rw [through, ahead_alt]
  rfl

theorem ahead_group (name : Text) (p : Pattern) (k : Onward) (s : Text) :
    (group name p).ahead k s = p.ahead (fun b r => (k b r).map (Mark.leave name :: ·)) s := by
  have memory_group : ∀ s, (group name p).memory k s =
      p.memory (fun b r => (k b r).map (Mark.leave name :: ·)) s := by
    intro s
    induction s with
    | nil => rfl
    | cons c s ih => simp only [memory, ih]; rfl
  cases s with
  | nil => rfl
  | cons c s => exact memory_group s

theorem through_group (name : Text) (p : Pattern) (b : Bool) (s : Text) (k : Onward) :
    (group name p).through b s k =
      (p.through b s fun b r => (k b r).map (Mark.leave name :: ·)).map (Mark.enter name :: ·) := by
  rw [through, ahead_group]
  rfl

/-! ### Loops whose rounds take something -/

/-- A pattern that has to take something does not ask how to go on without that. -/
theorem enter_of_not_nullable {p : Pattern} (h : p.nullable = false) (next : Memory p) (b : Bool)
    (c? : Option Char) (k : Option Trail) : p.enter next b c? k = p.enter next b c? none := by
  induction p generalizing k with
  | empty | atStart | atEnd | star => cases h
  | one => rfl
  | seq p q hp hq =>
    rw [enter, enter]
    rcases Bool.and_eq_false_iff.1 h with h | h
    · rw [hp h, hp h _ (q.enter _ _ _ _)]
    · rw [hq h]
  | alt p q hp hq =>
    obtain ⟨h₁, h₂⟩ := Bool.or_eq_false_iff.1 h
    rw [enter, enter, hp h₁, hq h₂]
  | group name p hp => rw [enter, enter, hp h, Option.map_none]
  | plus p eager hp => exact hp h ..

/-- **To go through such a pattern anew is to enter it.** -/
theorem keep_of_not_nullable {p : Pattern} (h : p.nullable = false) (next : Memory p)
    (c? : Option Char) (k : (Unit → Option Trail) → Option Trail) :
    p.keep next c? k = p.keep next c? fun _ => k fun _ => p.enter next false c? none := by
  induction p generalizing k with
  | empty | atStart | atEnd | star => cases h
  | one => rfl
  | seq p q hp hq =>
    simp only [keep, enter]
    rcases Bool.and_eq_false_iff.1 h with h | h
    · -- the first part takes something whatever follows
      have first : ∀ l, p.enter next.1 false c? l = p.enter next.1 false c? none :=
        fun l => enter_of_not_nullable h ..
      simp only [first]
      rw [hp h]
    · have second : ∀ l, q.enter next.2 false c? l = q.enter next.2 false c? none :=
        fun l => enter_of_not_nullable h ..
      simp only [second]
      rw [hq h]
  | alt p q hp hq =>
    obtain ⟨h₁, h₂⟩ := Bool.or_eq_false_iff.1 h
    simp only [keep, enter]
    rw [hp h₁, hq h₂]
  | group name p hp =>
    simp only [keep, enter]
    rw [hp h, Option.map_none]
  | plus p eager hp =>
    simp only [keep, enter]
    rw [hp h]
    conv => rhs; rw [hp h]

/-- How a trail goes on behind a round of a loop: with a further round, or behind the
loop. -/
def behindRound (p : Pattern) (eager : Bool) (k : Onward) : Onward := fun _ r =>
  preferred eager ((plus p eager).through false r k) (k false r)

theorem ahead_plus {p : Pattern} (h : p.nullable = false) (eager : Bool) (k : Onward) (s : Text) :
    (plus p eager).ahead k s = p.ahead (p.behindRound eager k) s := by
  have here : ∀ s, (plus p eager).ahead k s = p.ahead (p.behindRound eager k) s →
      (plus p eager).memory k s = p.memory (p.behindRound eager k) s := by
    intro s hs
    rw [memory_eq, memory_eq, keep, keep_of_not_nullable h, ← hs, behindRound, through, enter,
      enter_of_not_nullable h _ _ _ (k false s)]
  have memory_plus : ∀ s, (plus p eager).memory k s = p.memory (p.behindRound eager k) s := by
    intro s
    induction s with
    | nil => exact here [] rfl
    | cons c s ih => exact here (c :: s) ih
  cases s with
  | nil => rfl
  | cons c s => exact memory_plus s

/-- **A loop makes a round,** and goes on behind it. -/
theorem through_plus {p : Pattern} (h : p.nullable = false) (eager b : Bool) (s : Text)
    (k : Onward) :
    (plus p eager).through b s k = p.through b s (p.behindRound eager k) := by
  rw [through, ahead_plus h, through, enter, enter_of_not_nullable h,
    enter_of_not_nullable h _ _ _ (p.behindRound eager k b s)]

theorem ahead_star {p : Pattern} (h : p.nullable = false) (eager : Bool) (k : Onward) (s : Text) :
    (star p eager).ahead k s = p.ahead (p.behindRound eager k) s := by
  have same : ∀ next c? s, (star p eager).keep next c? (fun _ => k false s) =
      (plus p eager).keep next c? fun _ => k false s :=
    fun _ _ _ => rfl
  have memory_star : ∀ s, (star p eager).memory k s = (plus p eager).memory k s := by
    intro s
    induction s with
    | nil => exact same ..
    | cons c s ih => rw [memory, ih, memory, same]
  rw [← ahead_plus h]
  cases s with
  | nil => rfl
  | cons c s => exact memory_star s

/-- The same for a loop that need not make a round. -/
theorem through_star {p : Pattern} (h : p.nullable = false) (eager b : Bool) (s : Text)
    (k : Onward) : (star p eager).through b s k =
      preferred eager (p.through b s (p.behindRound eager k)) (k b s) := by
  rw [through, ahead_star h, through, enter,
    enter_of_not_nullable h _ _ _ (p.behindRound eager k b s)]

/-! ### Trails are ways -/

/-- A trail that starts with a way through a pattern and ends well behind it. -/
def Along (p : Pattern) (ends : Bool → Text → Trail → Prop) (b : Bool) (s : Text) (t : Trail) :
    Prop :=
  ∃ u b' s' v, Leads p b s u b' s' ∧ ends b' s' v ∧ t = u ++ v

/-- All that is kept of a place leads on through the rest of the pattern, and ends well
behind it. -/
def LeadsOn : (p : Pattern) → Memory p → Text → (ends : Bool → Text → Trail → Prop) → Prop
  | empty, _, _, _ | atStart, _, _, _ | atEnd, _, _, _ => True
  | one _, kept, s, ends => ∀ t, kept = some t → ends false s t
  | seq p q, kept, s, ends => p.LeadsOn kept.1 s (q.Along ends) ∧ q.LeadsOn kept.2 s ends
  | alt p q, kept, s, ends => p.LeadsOn kept.1 s ends ∧ q.LeadsOn kept.2 s ends
  | group name p, kept, s, ends =>
    p.LeadsOn kept s fun b r t => ∃ v, ends b r v ∧ t = .leave name :: v
  | plus p eager, kept, s, ends | star p eager, kept, s, ends =>
    p.LeadsOn kept s fun b r t => ends b r t ∨ (plus p eager).Along ends b r t

/-- A trail that starts with a way which takes something. -/
def Taking (p : Pattern) (ends : Bool → Text → Trail → Prop) (b : Bool) (s : Text) (t : Trail) :
    Prop :=
  ∃ u b' s' v, Leads p b s u b' s' ∧ s'.length < s.length ∧ ends b' s' v ∧ t = u ++ v

namespace Taking

variable {p : Pattern} {ends : Bool → Text → Trail → Prop} {b : Bool} {s : Text} {t : Trail}

theorem along (h : p.Taking ends b s t) : p.Along ends b s t := by
  obtain ⟨u, b', s', v, hl, -, hv⟩ := h
  exact ⟨u, b', s', v, hl, hv⟩

/-- A way on behind one that takes something. -/
theorem seq {q : Pattern} (h : p.Taking (q.Along ends) b s t) : (seq p q).Taking ends b s t := by
  obtain ⟨u, b', s', v, hl, hs, ⟨u', b'', s'', v', hl', hv, rfl⟩, rfl⟩ := h
  have shorter : s''.length < s.length := Nat.lt_of_le_of_lt hl'.isSuffix.length_le hs
  exact ⟨u ++ u', b'', s'', v', .seq hl hl', shorter, hv, (List.append_assoc ..).symm⟩

/-- A way that takes something behind one that takes nothing. -/
theorem behind {q : Pattern} {u : Trail} (hl : Leads p b s u b s) (h : q.Taking ends b s t) :
    (Pattern.seq p q).Taking ends b s (u ++ t) := by
  obtain ⟨u', b', s', v, hl', hs, hv, rfl⟩ := h
  exact ⟨u ++ u', b', s', v, .seq hl hl', hs, hv, (List.append_assoc ..).symm⟩

theorem altLeft (q : Pattern) (h : p.Taking ends b s t) : (alt p q).Taking ends b s t := by
  obtain ⟨u, b', s', v, hl, hv⟩ := h
  exact ⟨u, b', s', v, .altLeft q hl, hv⟩

theorem altRight (q : Pattern) (h : p.Taking ends b s t) : (alt q p).Taking ends b s t := by
  obtain ⟨u, b', s', v, hl, hv⟩ := h
  exact ⟨u, b', s', v, .altRight q hl, hv⟩

theorem group {name : Text}
    (h : p.Taking (fun b r t => ∃ v, ends b r v ∧ t = .leave name :: v) b s t) :
    (group name p).Taking ends b s (.enter name :: t) := by
  obtain ⟨u, b', s', _, hl, hs, ⟨v, hv, rfl⟩, rfl⟩ := h
  exact ⟨_, b', s', v, .group name hl, hs, hv, by simp⟩

/-- A round that takes something is the first of a loop. -/
theorem loop {eager : Bool}
    (h : p.Taking (fun b r t => ends b r t ∨ (plus p eager).Along ends b r t) b s t) :
    (plus p eager).Taking ends b s t := by
  obtain ⟨u, b', s', v, hl, hs, last | ⟨u', b'', s'', v', hl', hv, rfl⟩, rfl⟩ := h
  · exact ⟨u, b', s', v, .plusLast eager hl, hs, last, rfl⟩
  · rw [hl.eq_false_of_lt hs] at hl'
    have shorter : s''.length < s.length := Nat.lt_of_le_of_lt hl'.isSuffix.length_le hs
    exact ⟨u ++ u', b'', s'', v', .plusMore hl hs hl', shorter, hv, (List.append_assoc ..).symm⟩

theorem star {eager : Bool} (h : (plus p eager).Taking ends b s t) :
    (star p eager).Taking ends b s t := by
  obtain ⟨u, b', s', v, hl, hv⟩ := h
  exact ⟨u, b', s', v, .starSome hl, hv⟩

end Taking

variable {p : Pattern} {ends : Bool → Text → Trail → Prop} {s : Text}

/-- **The answer of a pattern leads through it:** it takes nothing and goes on as `k`
does, or it takes something and ends well. -/
theorem enter_cases {next : Memory p} (hnext : ∀ c r, s = c :: r → p.LeadsOn next r ends) {b : Bool}
    {k : Option Trail} {t : Trail} (h : p.enter next b s.head? k = some t) :
    (∃ u v, Leads p b s u b s ∧ k = some v ∧ t = u ++ v) ∨ p.Taking ends b s t := by
  induction p generalizing b k t ends with
  | empty => exact .inl ⟨[], t, .empty b s, h, rfl⟩
  | one set =>
    cases s with
    | nil => cases h
    | cons c s =>
      change (if set.has c then next.map (Mark.char c :: ·) else none) = some t at h
      split at h
      · next member =>
        obtain ⟨v, hv, rfl⟩ := Option.map_eq_some_iff.1 h
        exact .inr ⟨_, _, _, v, .one b s member, Nat.lt_succ_self _, hnext c s rfl v hv, rfl⟩
      · cases h
  | atStart =>
    cases b with
    | false => cases h
    | true => exact .inl ⟨[], t, .atStart s, h, rfl⟩
  | atEnd =>
    cases s with
    | nil => exact .inl ⟨[], t, .atEnd b, h, rfl⟩
    | cons c s => cases h
  | seq p q hp hq =>
    rcases hp (fun c r hs => (hnext c r hs).1) h with ⟨u, v, hl, hv, rfl⟩ | taking
    · rcases hq (fun c r hs => (hnext c r hs).2) hv with ⟨u', v', hl', hv', rfl⟩ | taking
      · exact .inl ⟨u ++ u', v', .seq hl hl', hv', (List.append_assoc ..).symm⟩
      · exact .inr (taking.behind hl)
    · exact .inr taking.seq
  | alt p q hp hq =>
    rcases Option.or_eq_some_iff.1 h with h | ⟨-, h⟩
    · exact (hp (fun c r hs => (hnext c r hs).1) h).imp
        (fun ⟨u, v, hl, hv⟩ => ⟨u, v, .altLeft q hl, hv⟩) (Taking.altLeft q)
    · exact (hq (fun c r hs => (hnext c r hs).2) h).imp
        (fun ⟨u, v, hl, hv⟩ => ⟨u, v, .altRight p hl, hv⟩) (Taking.altRight p)
  | group name p hp =>
    obtain ⟨t, ht, rfl⟩ := Option.map_eq_some_iff.1 h
    rcases hp hnext ht with ⟨u, _, hl, hv, rfl⟩ | taking
    · obtain ⟨v, rfl, rfl⟩ := Option.map_eq_some_iff.1 hv
      exact .inl ⟨_, v, .group name hl, rfl, by simp⟩
    · exact .inr taking.group
  | plus p eager hp =>
    exact (hp hnext h).imp (fun ⟨u, v, hl, hv⟩ => ⟨u, v, .plusLast eager hl, hv⟩) Taking.loop
  | star p eager hp =>
    rcases preferred_eq_some h with h | h
    · rcases hp hnext h with ⟨_, _, _, hv, -⟩ | taking
      · cases hv
      · exact .inr taking.loop.star
    · exact .inl ⟨[], t, .starNone p eager b s, h, rfl⟩

/-- An answer that may not take nothing takes something. -/
theorem taking_of_enter {next : Memory p} (hnext : ∀ c r, s = c :: r → p.LeadsOn next r ends)
    {b : Bool} {t : Trail} (h : p.enter next b s.head? none = some t) : p.Taking ends b s t := by
  rcases enter_cases hnext h with ⟨_, _, _, hv, -⟩ | taking
  · cases hv
  · exact taking

/-- **What a pattern keeps of a place leads on,** if what it keeps of the next place does
and what is behind the pattern ends well. -/
theorem leadsOn_keep {next : Memory p} (hnext : ∀ c r, s = c :: r → p.LeadsOn next r ends)
    {k : (Unit → Option Trail) → Option Trail}
    (hk : ∀ anew, (∀ t, anew () = some t → p.Taking ends false s t) →
      ∀ v, k anew = some v → ends false s v) :
    p.LeadsOn (p.keep next s.head? k) s ends := by
  induction p generalizing k ends with
  | empty | atStart | atEnd => trivial
  | one set => exact hk _ fun t ht => taking_of_enter hnext ht
  | seq p q hp hq =>
    have hnext₁ : ∀ c r, s = c :: r → p.LeadsOn next.1 r (q.Along ends) :=
      fun c r hs => (hnext c r hs).1
    have hnext₂ : ∀ c r, s = c :: r → q.LeadsOn next.2 r ends := fun c r hs => (hnext c r hs).2
    refine ⟨hp hnext₁ fun anew taking v hv => ?_, hq hnext₂ fun anew taking v hv => ?_⟩
    · rcases enter_cases hnext₂ hv with ⟨u, w, hl, hw, rfl⟩ | taking
      · exact ⟨u, false, s, w, hl, hk anew (fun t ht => (taking t ht).seq) w hw, rfl⟩
      · exact taking.along
    · refine hk _ (fun t ht => ?_) v hv
      rcases enter_cases hnext₁ ht with ⟨u, w, hl, hw, rfl⟩ | taking₁
      · exact (taking w hw).behind hl
      · exact taking₁.seq
  | alt p q hp hq =>
    have hnext₁ : ∀ c r, s = c :: r → p.LeadsOn next.1 r ends := fun c r hs => (hnext c r hs).1
    have hnext₂ : ∀ c r, s = c :: r → q.LeadsOn next.2 r ends := fun c r hs => (hnext c r hs).2
    refine ⟨hp hnext₁ fun anew taking => hk _ fun t ht => ?_,
      hq hnext₂ fun anew taking => hk _ fun t ht => ?_⟩
    · rcases Option.or_eq_some_iff.1 ht with ht | ⟨-, ht⟩
      · exact (taking t ht).altLeft q
      · exact (taking_of_enter hnext₂ ht).altRight p
    · rcases Option.or_eq_some_iff.1 ht with ht | ⟨-, ht⟩
      · exact (taking_of_enter hnext₁ ht).altLeft q
      · exact (taking t ht).altRight p
  | group name p hp =>
    refine hp hnext fun anew taking v hv => ?_
    obtain ⟨w, hw, rfl⟩ := Option.map_eq_some_iff.1 hv
    refine ⟨w, hk _ (fun t ht => ?_) w hw, rfl⟩
    obtain ⟨u, hu, rfl⟩ := Option.map_eq_some_iff.1 ht
    exact (taking u hu).group
  | plus p eager hp =>
    refine hp hnext fun anew taking v hv => ?_
    rcases preferred_eq_some hv with hv | hv
    · exact .inr (taking v hv).loop.along
    · exact .inl (hk anew (fun t ht => (taking t ht).loop) v hv)
  | star p eager hp =>
    refine hp hnext fun anew taking v hv => ?_
    rcases preferred_eq_some hv with hv | hv
    · exact .inr (taking v hv).loop.along
    · refine .inl (hk _ (fun t ht => ?_) v hv)
      cases ht

/-- All that is kept of a place leads on to where `k` goes on. -/
theorem leadsOn_memory (p : Pattern) (k : Onward) (s : Text) :
    p.LeadsOn (p.memory k s) s fun b r t => k b r = some t := by
  induction s with
  | nil => exact leadsOn_keep (s := []) nofun fun _ _ _ hv => hv
  | cons c s ih =>
    refine leadsOn_keep (s := c :: s) ?_ fun _ _ _ hv => hv
    rintro _ _ ⟨⟩
    exact ih

/-- **A trail through a pattern is a way through it and the trail on from there.** -/
theorem exists_leads_of_through {b : Bool} {k : Onward} {t : Trail}
    (h : p.through b s k = some t) :
    ∃ u b' s' v, Leads p b s u b' s' ∧ k b' s' = some v ∧ t = u ++ v := by
  have hnext : ∀ c r, s = c :: r →
      p.LeadsOn (p.ahead k s) r fun b r t => k b r = some t := by
    rintro c r rfl
    exact leadsOn_memory p k r
  rcases enter_cases hnext h with ⟨u, v, hl, hv, rfl⟩ | taking
  · exact ⟨u, b, s, v, hl, hv, rfl⟩
  · exact taking.along

end Pattern
end AsmListing
