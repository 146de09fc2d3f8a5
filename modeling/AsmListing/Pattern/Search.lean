/-
# Matches in a text

The match of a pattern in a text is the preferred trail from the first place
that has any.  Further matches are looked for from the end of the last one on,
in the same text, so that the place before the whole text stays the only one
where the text starts; a match of nothing is not counted where the last match
ended.
-/

import AsmListing.Pattern.Through

namespace AsmListing

/-- A match, and the text on its two sides. -/
structure Hit where
  before : Text
  trail : Trail
  after : Text
  deriving DecidableEq, Repr

namespace Hit

/-- The text of the match. -/
def taken (h : Hit) : Text :=
  h.trail.taken

/-- The text that a group holds in the match. -/
def group? (h : Hit) (name : Text) : Option Text :=
  h.trail.group? name

/-- A match at the front of a text. -/
def atFront (s : Text) (t : Trail) : Hit :=
  ⟨[], t, s.drop t.taken.length⟩

/-- The same match in a text with one more character in front. -/
def push (c : Char) (h : Hit) : Hit :=
  { h with before := c :: h.before }

end Hit

namespace Pattern

/-- The first of the answers for the places of a text. -/
def firstHit : List (Option Trail) → Text → Option Hit
  | [], _ => none
  | some t :: _, s => some (Hit.atFront s t)
  | none :: _, [] => none
  | none :: later, c :: s => (firstHit later s).map (Hit.push c)

/-- The first match in a text; `b` tells whether the text before is empty. -/
def findFrom (p : Pattern) (b : Bool) (s : Text) : Option Hit :=
  firstHit (p.answers b s) s

/-- The first match in a whole text. -/
def find? (p : Pattern) (s : Text) : Option Hit :=
  p.findFrom true s

theorem findFrom_nil (p : Pattern) (b : Bool) :
    p.findFrom b [] = (p.through b [] accept).map (Hit.atFront []) := by
  rw [findFrom, answers_nil]
  cases p.through b [] accept <;> rfl

/-- A match starts at the front of a text, or else where one starts behind the
first character. -/
theorem findFrom_cons (p : Pattern) (b : Bool) (c : Char) (s : Text) :
    p.findFrom b (c :: s) =
      match p.through b (c :: s) accept with
      | some t => some (Hit.atFront (c :: s) t)
      | none => (p.findFrom false s).map (Hit.push c) := by
  rw [findFrom, answers_cons]
  cases p.through b (c :: s) accept <;> rfl

/-- Whether the pattern has a match in the empty text. -/
def matchesEmpty (p : Pattern) : Bool :=
  (p.find? []).isSome

theorem matchesEmpty_eq (p : Pattern) : p.matchesEmpty = (p.through true [] accept).isSome := by
  rw [matchesEmpty, find?, findFrom_nil, Option.isSome_map]

/-- All matches among the answers for the places of a text, with their positions
in bytes, if the first place has position `position`.  The first `skip` places
lie inside the last match; `touching` tells that it ends at the place behind
them. -/
def hits : List (Option Trail) → (skip : Nat) → (touching : Bool) → (position : Nat) → Text →
    List (Nat × Trail)
  | [], _, _, _, _ => []
  | _ :: later, skip + 1, touching, position, s =>
    hits later skip touching (position + Text.byteSize (s.take 1)) s.tail
  | none :: later, 0, _, position, s =>
    hits later 0 false (position + Text.byteSize (s.take 1)) s.tail
  | some t :: later, 0, touching, position, s =>
    let size := t.taken.length
    (if size = 0 && touching then [] else [(position, t)]) ++
      hits later (size - 1) (size != 0) (position + Text.byteSize (s.take 1)) s.tail

/-- All matches in a text that do not overlap, from left to right, each with its
position in bytes. -/
def findAll (p : Pattern) (s : Text) : List (Nat × Trail) :=
  hits (p.answers true s) 0 false 0 s

/-- A match leads through the pattern from the place where it starts, and with the text on
its two sides makes up the whole text. -/
theorem leads_of_findFrom {p : Pattern} {b : Bool} {s : Text} {h : Hit}
    (hs : p.findFrom b s = some h) :
    (∃ b', Leads p (b && h.before.isEmpty) (h.taken ++ h.after) h.trail b' h.after) ∧
      h.before ++ h.taken ++ h.after = s := by
  have front : ∀ {b s t}, p.through b s accept = some t → ∀ h, h = Hit.atFront s t →
      (∃ b', Leads p (b && h.before.isEmpty) (h.taken ++ h.after) h.trail b' h.after) ∧
        h.before ++ h.taken ++ h.after = s := by
    rintro b s t ht _ rfl
    obtain ⟨u, b', s', v, hl, hv, rfl⟩ := exists_leads_of_through ht
    cases hv
    have whole := hl.taken_append
    have drop : s.drop (Trail.taken u).length = s' := by rw [← whole, List.drop_left]
    rw [List.append_nil, Hit.atFront, Hit.taken, drop, List.isEmpty_nil, Bool.and_true]
    exact ⟨⟨b', by rwa [whole]⟩, whole⟩
  induction s generalizing b h with
  | nil =>
    rw [findFrom_nil] at hs
    obtain ⟨t, ht, hit⟩ := Option.map_eq_some_iff.1 hs
    exact front ht h hit.symm
  | cons c s ih =>
    rw [findFrom_cons] at hs
    split at hs
    · next t ht => exact front ht h (Option.some.inj hs).symm
    · obtain ⟨h', hs', rfl⟩ := Option.map_eq_some_iff.1 hs
      obtain ⟨⟨b', hl⟩, whole⟩ := ih hs'
      refine ⟨⟨b', ?_⟩, by rw [← whole]; rfl⟩
      rwa [Hit.push, List.isEmpty_cons, Bool.and_false]

end Pattern
end AsmListing
