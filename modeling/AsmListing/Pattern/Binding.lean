/-
# Groups that every match binds

A group outside of optional parts takes part in every match.  `Pattern.binds`
reads this off the pattern, and `Pattern.group?_isSome` says what it means for
a match.
-/

import AsmListing.Pattern.Search

namespace AsmListing
namespace Pattern

/-- Whether a group of this name stands outside of all optional parts. -/
def binds (name : Text) : Pattern → Bool
  | empty | one _ | atStart | atEnd => false
  | seq p q => binds name p || binds name q
  | alt p q => binds name p && binds name q
  | group n p => n == name || binds name p
  | plus p _ => binds name p
  | star _ _ => false

/-- Such a group is entered on every way through the pattern. -/
theorem Leads.enter_mem {p : Pattern} {b b' : Bool} {s s' : Text} {t : Trail}
    (h : Leads p b s t b' s') {name : Text} (hn : p.binds name = true) : Mark.enter name ∈ t := by
  induction h with
  | empty | one | atStart | atEnd | starNone | starSome => cases hn
  | seq _ _ hp hq =>
    rw [binds, Bool.or_eq_true] at hn
    exact List.mem_append.2 (hn.imp hp hq)
  | altLeft _ _ ih =>
    rw [binds, Bool.and_eq_true] at hn
    exact ih hn.1
  | altRight _ _ ih =>
    rw [binds, Bool.and_eq_true] at hn
    exact ih hn.2
  | group n _ ih =>
    rw [binds, Bool.or_eq_true, beq_iff_eq] at hn
    rcases hn with rfl | hn
    · simp
    · simp [ih hn]
  | plusLast _ _ ih => exact ih hn
  | plusMore _ _ _ hp _ => exact List.mem_append_left _ (hp hn)

/-- **A group outside of all optional parts takes part in every match.** -/
theorem group?_isSome {name : Text} {p : Pattern} (hn : p.binds name = true) {s : Text} {h : Hit}
    (hs : p.find? s = some h) : (h.group? name).isSome = true := by
  obtain ⟨⟨_, hl⟩, -⟩ := leads_of_findFrom hs
  exact Trail.group?_isSome_iff.2 (hl.enter_mem hn)

end Pattern
end AsmListing
