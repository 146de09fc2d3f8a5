/-
# Ways that are found

`Pattern.through` follows the ways through a pattern in an order of preference, and a
loop goes anew only through parts that have not been gone through at the same place.  It
leads along a way (`exists_leads_of_through`), and conversely it misses none: wherever
there is a way through a pattern to a place from which one can go on, some trail is found
(`Leads.isSome_through`).  So a search fails exactly where no way leads on
(`isSome_through_iff`).

For an answer at one place this is an induction on the pattern (`isSome_enter`).  For
what a pattern keeps of a place (`finds_keep`) there is something to show: a further
round that is cut off because it comes upon a part gone through before could have turned
off at that part at once.  In the terms of the induction: if a pattern that is entered
finds a trail on from a place, then so does one that is gone through anew there, or
else what is kept goes on without a further round.

A way that takes nothing uses, besides empty parts, only the start and the end of
the text.  Both are at hand in the empty text, so the way can be taken there as
well (`Leads.nil`).  Hence a pattern matches the empty text exactly when it can
match nothing at some place of some text (`matchesEmpty_iff`): a single look at
the empty text tells it.
-/

import AsmListing.Pattern.Search

namespace AsmListing
namespace Pattern

/-- Whether a pattern can be gone through at a place without taking anything. -/
def passes : Pattern → (b : Bool) → (c? : Option Char) → Bool
  | empty, _, _ | star _ _, _, _ => true
  | one _, _, _ => false
  | atStart, b, _ => b
  | atEnd, _, c? => c?.isNone
  | seq p q, b, c? => p.passes b c? && q.passes b c?
  | alt p q, b, c? => p.passes b c? || q.passes b c?
  | group _ p, b, c? | plus p _, b, c? => p.passes b c?

/-- A pattern has an answer that takes something, or one that goes on at the place. -/
theorem isSome_enter_iff {p : Pattern} {next : Memory p} {b : Bool} {c? : Option Char}
    {k : Option Trail} : (p.enter next b c? k).isSome = true ↔
      (p.enter next b c? none).isSome = true ∨ p.passes b c? = true ∧ k.isSome = true := by
  induction p generalizing k with
  | empty => simp [enter, passes]
  | one set => simp [enter, passes]
  | atStart => cases b <;> simp [enter, passes]
  | atEnd => cases c? <;> simp [enter, passes]
  | seq p q hp hq =>
    rw [enter, enter, hp, hp (k := q.enter _ _ _ none), hq, passes, Bool.and_eq_true]
    grind
  | alt p q hp hq =>
    simp only [enter, Option.isSome_or, Bool.or_eq_true, passes]
    rw [hp, hq]
    grind
  | group name p hp =>
    simp only [enter, Option.isSome_map, Option.map_none, passes]
    rw [hp, Option.isSome_map]
  | plus p eager hp => exact hp
  | star p eager hp => simp [enter, passes, isSome_preferred]

/-- From all places that a pattern keeps, a trail is found that goes on behind it, where
there is a way to a place with `good`. -/
def Finds : (p : Pattern) → Memory p → Text → (good : Bool → Text → Prop) → Prop
  | empty, _, _, _ | atStart, _, _, _ | atEnd, _, _, _ => True
  | one _, kept, s, good => good false s → kept.isSome = true
  | seq p q, kept, s, good =>
    p.Finds kept.1 s (fun b r => ∃ u b' r', Leads q b r u b' r' ∧ good b' r') ∧
      q.Finds kept.2 s good
  | alt p q, kept, s, good => p.Finds kept.1 s good ∧ q.Finds kept.2 s good
  | group _ p, kept, s, good => p.Finds kept s good
  | plus p eager, kept, s, good | star p eager, kept, s, good =>
    p.Finds kept s fun b r => good b r ∨ ∃ u b' r', Leads (plus p eager) b r u b' r' ∧ good b' r'

namespace Leads

/-- The first round of a loop is the last, or it takes something. -/
theorem first_round {p : Pattern} {eager b b' : Bool} {s s' : Text} {t : Trail}
    (h : Leads (.plus p eager) b s t b' s') : ∃ u b₁ s₁, Leads p b s u b₁ s₁ ∧
      (b₁ = b' ∧ s₁ = s' ∨ s₁.length < s.length ∧ s'.length < s.length ∧
        ∃ u', Leads (.plus p eager) b₁ s₁ u' b' s') := by
  cases h with
  | plusLast _ h => exact ⟨_, _, _, h, .inl ⟨rfl, rfl⟩⟩
  | plusMore h hs more =>
    rw [← h.eq_false_of_lt hs] at more
    have shorter := Nat.lt_of_le_of_lt more.isSuffix.length_le hs
    exact ⟨_, _, _, h, .inr ⟨hs, shorter, _, more⟩⟩

/-- **A way that takes nothing can be taken in the empty text.** -/
theorem nil {p : Pattern} {b b' : Bool} {s s' : Text} {t : Trail} (h : Leads p b s t b' s')
    (ht : t.taken = []) : Leads p true [] t true [] := by
  induction h with
  | empty => exact .empty true []
  | one => cases ht
  | atStart => exact .atStart []
  | atEnd => exact .atEnd true
  | seq _ _ hp hq =>
    rw [Trail.taken_append, List.append_eq_nil_iff] at ht
    exact .seq (hp ht.1) (hq ht.2)
  | altLeft q _ ih => exact .altLeft q (ih ht)
  | altRight p _ ih => exact .altRight p (ih ht)
  | group name _ ih =>
    refine .group name (ih ?_)
    simpa [Trail.taken, Trail.taken_append] using ht
  | plusLast eager _ ih => exact .plusLast eager (ih ht)
  | @plusMore p eager b s t b' s' u b'' s'' h hs =>
    -- its first round takes something
    rw [Trail.taken_append, List.append_eq_nil_iff] at ht
    have same : s' = s := by rw [← h.taken_append, ht.1, List.nil_append]
    rw [same] at hs
    exact absurd hs (Nat.lt_irrefl _)
  | starNone p eager => exact .starNone p eager true []
  | starSome _ ih => exact .starSome (ih ht)

end Leads

variable {p : Pattern} {s : Text} {good : Bool → Text → Prop}

/-- **A pattern finds an answer where it has a way,** if one can go on from where the way
ends. -/
theorem isSome_enter {next : Memory p} (hnext : ∀ c r, s = c :: r → p.Finds next r good)
    {b b' : Bool} {u : Trail} {r : Text} (h : Leads p b s u b' r) {k : Option Trail}
    (stays : r = s → k.isSome = true) (takes : r.length < s.length → good b' r) :
    (p.enter next b s.head? k).isSome = true := by
  induction p generalizing b b' u r k good with
  | empty => cases h; exact stays rfl
  | one set =>
    cases h with
    | one b r hc =>
      rw [List.head?_cons, enter]
      simpa [hc] using hnext _ r rfl (takes (Nat.lt_succ_self _))
  | atStart => cases h; exact stays rfl
  | atEnd => cases h; exact stays rfl
  | seq p q hp hq =>
    cases h with
    | seq h₁ h₂ =>
      refine hp (fun c r hs => (hnext c r hs).1) h₁ (fun same => ?_) fun shorter => ?_
      · subst same
        rw [h₁.flag_eq] at h₂
        exact hq (fun c r hs => (hnext c r hs).2) h₂ stays takes
      · exact ⟨_, b', r, h₂, takes (Nat.lt_of_le_of_lt h₂.isSuffix.length_le shorter)⟩
  | alt p q hp hq =>
    rw [enter, Option.isSome_or, Bool.or_eq_true]
    cases h with
    | altLeft _ h => exact .inl (hp (fun c r hs => (hnext c r hs).1) h stays takes)
    | altRight _ h => exact .inr (hq (fun c r hs => (hnext c r hs).2) h stays takes)
  | group name p hp =>
    cases h with
    | group _ h =>
      rw [enter, Option.isSome_map]
      exact hp hnext h (fun same => by rw [Option.isSome_map]; exact stays same) takes
  | plus p eager hp =>
    obtain ⟨u, b₁, s₁, h₁, ⟨rfl, rfl⟩ | ⟨hs, shorter, u', more⟩⟩ := h.first_round
    · exact hp hnext h₁ stays fun shorter => .inl (takes shorter)
    · exact hp hnext h₁ (fun same => absurd (congrArg List.length same) (Nat.ne_of_lt hs))
        fun _ => .inr ⟨u', b', r, more, takes shorter⟩
  | star p eager hp =>
    rw [enter, isSome_preferred]
    rcases h.stays_or_takes with ⟨-, same⟩ | ⟨-, shorter⟩
    · exact .inr (stays same)
    · left
      cases h with
      | starNone => exact absurd shorter (Nat.lt_irrefl _)
      | starSome h =>
        have moves : ∀ {r : Text}, r.length < s.length → r = s →
            (none : Option Trail).isSome = true :=
          fun hr same => absurd (congrArg List.length same) (Nat.ne_of_lt hr)
        obtain ⟨u, b₁, s₁, h₁, ⟨rfl, rfl⟩ | ⟨hs, -, u', more⟩⟩ := h.first_round
        · exact hp hnext h₁ (moves shorter) fun _ => .inl (takes shorter)
        · exact hp hnext h₁ (moves hs) fun _ => .inr ⟨u', b', r, more, takes shorter⟩

/-- A loop at a good place to end at, or with a way to one, is at a good place or makes a
round that takes something. -/
theorem good_or_enter {eager : Bool} {next : Memory p}
    (hnext : ∀ c r, s = c :: r → (plus p eager).Finds next r good)
    (h : good false s ∨ ∃ u b' r, Leads (plus p eager) false s u b' r ∧ good b' r) :
    good false s ∨ (p.enter next false s.head? none).isSome = true := by
  rcases h with hgood | ⟨u, b', r, hl, hgood⟩
  · exact .inl hgood
  · rcases hl.stays_or_takes with ⟨rfl, rfl⟩ | ⟨-, shorter⟩
    · exact .inl hgood
    · exact .inr (isSome_enter (p := plus p eager) hnext hl
        (fun same => absurd (congrArg List.length same) (Nat.ne_of_lt shorter)) fun _ => hgood)

/-- A trail is found behind a pattern in any case, or else with the answer of going
through it anew, where entering it has one. -/
def GoesOn (p : Pattern) (next : Memory p) (s : Text) (k : (Unit → Option Trail) → Option Trail) :
    Prop :=
  (∀ anew, (k anew).isSome = true) ∨
    (∀ anew, (anew ()).isSome = true → (k anew).isSome = true) ∧
      (p.enter next false s.head? none).isSome = true

/-- **A pattern keeps what finds a trail,** if what it keeps of the next place does. -/
theorem finds_keep {next : Memory p} (hnext : ∀ c r, s = c :: r → p.Finds next r good)
    {k : (Unit → Option Trail) → Option Trail} (hk : good false s → p.GoesOn next s k) :
    p.Finds (p.keep next s.head? k) s good := by
  induction p generalizing k good with
  | empty | atStart | atEnd => trivial
  | one set =>
    intro hgood
    rcases hk hgood with all | ⟨some_anew, entered⟩
    · exact all _
    · exact some_anew _ entered
  | seq p q hp hq =>
    have hnext₁ := fun c r hs => (hnext c r hs).1
    have hnext₂ := fun c r hs => (hnext c r hs).2
    refine ⟨hp hnext₁ ?_, hq hnext₂ fun hgood => ?_⟩
    · rintro ⟨u, b', r, hl, hgood⟩
      rcases hl.stays_or_takes with ⟨rfl, rfl⟩ | ⟨-, shorter⟩
      · rcases hk hgood with all | ⟨some_anew, entered⟩
        · exact .inl fun anew => isSome_enter hnext₂ hl (fun _ => all anew) fun _ => hgood
        rw [enter, isSome_enter_iff] at entered
        rcases entered with entered | ⟨-, entered⟩
        · exact .inr ⟨fun anew h => isSome_enter hnext₂ hl (fun _ => some_anew anew h)
            fun _ => hgood, entered⟩
        · -- the second part finds a trail by itself
          exact .inl fun anew => isSome_enter_iff.2 (.inl entered)
      · exact .inl fun anew => isSome_enter hnext₂ hl
          (fun same => absurd (congrArg List.length same) (Nat.ne_of_lt shorter)) fun _ => hgood
    · rcases hk hgood with all | ⟨some_anew, entered⟩
      · exact .inl fun anew => all _
      rw [enter, isSome_enter_iff] at entered
      rcases entered with entered | ⟨passes, entered⟩
      · exact .inl fun anew => some_anew _ (isSome_enter_iff.2 (.inl entered))
      · exact .inr ⟨fun anew h => some_anew _ (isSome_enter_iff.2 (.inr ⟨passes, h⟩)), entered⟩
  | alt p q hp hq =>
    have either : ∀ {x y : Option Trail}, (x.or y).isSome = true ↔
        x.isSome = true ∨ y.isSome = true := by simp
    refine ⟨hp (fun c r hs => (hnext c r hs).1) fun hgood => ?_,
      hq (fun c r hs => (hnext c r hs).2) fun hgood => ?_⟩
    all_goals
      rcases hk hgood with all | ⟨some_anew, entered⟩
      · exact .inl fun anew => all _
      rw [enter, either] at entered
      rcases entered with entered | entered
    · exact .inr ⟨fun anew h => some_anew _ (either.2 (.inl h)), entered⟩
    · exact .inl fun anew => some_anew _ (either.2 (.inr entered))
    · exact .inl fun anew => some_anew _ (either.2 (.inl entered))
    · exact .inr ⟨fun anew h => some_anew _ (either.2 (.inr h)), entered⟩
  | group name p hp =>
    refine hp hnext fun hgood => ?_
    simp only [GoesOn, Option.isSome_map]
    rcases hk hgood with all | ⟨some_anew, entered⟩
    · exact .inl fun anew => all _
    · rw [enter, Option.isSome_map, Option.map_none] at entered
      exact .inr ⟨fun anew h => some_anew _ (by rwa [Option.isSome_map]), entered⟩
  | plus p eager hp =>
    refine hp hnext fun hgood => ?_
    rcases good_or_enter hnext hgood with hgood | entered
    · rcases hk hgood with all | ⟨-, entered⟩
      · exact .inl fun anew => isSome_preferred.2 (.inr (all anew))
      · exact .inr ⟨fun anew h => isSome_preferred.2 (.inl h), entered⟩
    · exact .inr ⟨fun anew h => isSome_preferred.2 (.inl h), entered⟩
  | star p eager hp =>
    refine hp hnext fun hgood => ?_
    rcases good_or_enter hnext hgood with hgood | entered
    · rcases hk hgood with all | ⟨-, entered⟩
      · exact .inl fun anew => isSome_preferred.2 (.inr (all _))
      · rw [enter, isSome_preferred] at entered
        exact .inr ⟨fun anew h => isSome_preferred.2 (.inl h), entered.resolve_right Bool.false_ne_true⟩
    · exact .inr ⟨fun anew h => isSome_preferred.2 (.inl h), entered⟩

theorem finds_memory (p : Pattern) (k : Onward) (s : Text) :
    p.Finds (p.memory k s) s fun b r => (k b r).isSome = true := by
  induction s with
  | nil => exact finds_keep (s := []) nofun fun hk => .inl fun _ => hk
  | cons c s ih =>
    refine finds_keep (s := c :: s) ?_ fun hk => .inl fun _ => hk
    rintro _ _ ⟨⟩
    exact ih

/-- **Wherever a way leads to a place from which one can go on, some trail is
found.** -/
theorem Leads.isSome_through {b b' : Bool} {s' : Text} {t : Trail} {k : Onward}
    (h : Leads p b s t b' s') (hk : (k b' s').isSome = true) :
    (p.through b s k).isSome = true := by
  have hnext : ∀ c r, s = c :: r →
      p.Finds (p.ahead k s) r fun b r => (k b r).isSome = true := by
    rintro c r rfl
    exact finds_memory p k r
  refine isSome_enter hnext h (fun same => ?_) fun _ => hk
  subst same
  rwa [← h.flag_eq]

/-- **A trail is found exactly where a way leads on.** -/
theorem isSome_through_iff {p : Pattern} {b : Bool} {s : Text} {k : Onward} :
    (p.through b s k).isSome = true ↔
      ∃ t b' s', Leads p b s t b' s' ∧ (k b' s').isSome = true := by
  constructor
  · intro h
    obtain ⟨t, ht⟩ := Option.isSome_iff_exists.1 h
    obtain ⟨u, b', s', v, hl, hv, -⟩ := exists_leads_of_through ht
    exact ⟨u, b', s', hl, by rw [hv]; rfl⟩
  · rintro ⟨t, b', s', hl, hk⟩
    exact hl.isSome_through hk

/-- **A pattern matches the empty text exactly when it can match nothing at some
place of some text.** -/
theorem matchesEmpty_iff {p : Pattern} : p.matchesEmpty = true ↔
    ∃ b s t b' s', Leads p b s t b' s' ∧ t.taken = [] := by
  rw [matchesEmpty_eq, isSome_through_iff]
  constructor
  · rintro ⟨t, b', s', hl, -⟩
    exact ⟨true, [], t, b', s', hl, (List.append_eq_nil_iff.1 hl.taken_append).1⟩
  · rintro ⟨b, s, t, b', s', hl, ht⟩
    exact ⟨t, true, [], hl.nil ht, rfl⟩

/-- So all its matches take something when it does not match the empty text. -/
theorem taken_ne_nil_of_find? {p : Pattern} (hp : p.matchesEmpty = false) {s : Text} {hit : Hit}
    (h : p.find? s = some hit) : hit.taken ≠ [] := by
  intro ht
  obtain ⟨⟨b', hl⟩, -⟩ := leads_of_findFrom h
  rw [matchesEmpty_iff.2 ⟨_, _, hit.trail, b', hit.after, hl, ht⟩] at hp
  cases hp

end Pattern
end AsmListing
