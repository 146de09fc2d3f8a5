/-
# The parts of a literal on a trail

A trail through a literal goes through its parts in the order in which they are written.
Digits, size and label are taken without further groups; the way through the marker is
that of the marker's own pattern, which may have groups (`LiteralParts.along`).  As long as
none of these is named like a part, the groups of the trail hold the parts
(`LiteralParts.isOf_along`), and the text taken is that of the literal
(`LiteralParts.taken_along`).
-/

import AsmListing.Architecture.Definition
import AsmListing.Proofs.Literal.Scanner
import AsmListing.Proofs.Pattern.Greedy

namespace AsmListing

open Architecture

namespace LiteralParts

/-- The trail through the size and the label. -/
def suffix (p : LiteralParts) : Trail :=
  (p.size.map (Trail.within GroupName.size)).getD [] ++
    (p.label.map fun l => .char '\x7b' :: Trail.within GroupName.label l ++ [.char '\x7d']).getD []

/-- The trail through the parts of a literal. -/
def trail (markerLast : Bool) (p : LiteralParts) : Trail :=
  (if markerLast then
      Trail.within GroupName.digits p.digits ++ Trail.within GroupName.marker p.marker
    else Trail.within GroupName.marker p.marker ++ Trail.within GroupName.digits p.digits) ++
    p.suffix

/-- The trail through the parts of a literal, with a given trail through the marker. -/
def along (markerLast : Bool) (u : Trail) (p : LiteralParts) : Trail :=
  (if markerLast then
      Trail.within GroupName.digits p.digits ++ Trail.around GroupName.marker u
    else Trail.around GroupName.marker u ++ Trail.within GroupName.digits p.digits) ++
    p.suffix

/-- The parts of a literal that is a match: what its groups hold. -/
structure IsOf (p : LiteralParts) (hit : Hit) : Prop where
  marker : hit.group? GroupName.marker = some p.marker
  digits : hit.group? GroupName.digits = some p.digits
  size : hit.group? GroupName.size = p.size
  label : hit.group? GroupName.label = p.label

/-- A match holds the parts of one literal only. -/
theorem IsOf.unique {p q : LiteralParts} {hit : Hit} (hp : p.IsOf hit) (hq : q.IsOf hit) :
    p = q := by
  have marker := Option.some.inj (hp.marker.symm.trans hq.marker)
  have digits := Option.some.inj (hp.digits.symm.trans hq.digits)
  have size := hp.size.symm.trans hq.size
  have label := hp.label.symm.trans hq.label
  cases p
  cases q
  rw [mk.injEq]
  exact ⟨marker, digits, size, label⟩

/-! ### The text -/

/-- **What is taken on the trail is the text of the literal.** -/
theorem taken_along (markerLast : Bool) {u : Trail} {p : LiteralParts} (h : u.taken = p.marker) :
    Trail.taken (p.along markerLast u) = p.raw markerLast := by
  have marked : Trail.taken (Trail.around GroupName.marker u) = p.marker := by
    rw [← h]
    simp [Trail.around, Trail.taken, Trail.taken_append]
  obtain ⟨marker, digits, size, label⟩ := p
  cases markerLast <;> cases size <;> cases label <;>
    simp [along, suffix, raw, Trail.taken_append, Trail.taken_within, Trail.taken, marked]

theorem taken_trail (markerLast : Bool) (p : LiteralParts) :
    Trail.taken (p.trail markerLast) = p.raw markerLast :=
  taken_along markerLast (Trail.taken_ofText p.marker)

/-! ### The groups -/

/-- A size has nothing to do with what other groups hold. -/
theorem group?_sized {name : Text} (h : GroupName.size ≠ name) (size : Option Text) (t : Trail) :
    Trail.group? name ((size.map (Trail.within GroupName.size)).getD [] ++ t) =
      Trail.group? name t := by
  cases size with
  | none => rfl
  | some s => exact Trail.group?_within_of_ne h s t

/-- Nor has a label. -/
theorem group?_labelled {name : Text} (h : GroupName.label ≠ name) (label : Option Text) :
    Trail.group? name ((label.map fun l =>
      .char '\x7b' :: Trail.within GroupName.label l ++ [.char '\x7d']).getD []) = none := by
  cases label with
  | none => rfl
  | some l => exact Trail.group?_within_of_ne h l [.char '\x7d']

theorem group?_suffix {name : Text} (hs : GroupName.size ≠ name) (hl : GroupName.label ≠ name)
    (p : LiteralParts) : Trail.group? name p.suffix = none := by
  rw [suffix, group?_sized hs, group?_labelled hl]

theorem group?_suffix_size (p : LiteralParts) : Trail.group? GroupName.size p.suffix = p.size := by
  have other := group?_labelled (show GroupName.label ≠ GroupName.size by decide) p.label
  unfold suffix
  cases p.size with
  | none => exact other
  | some s =>
    refine (Trail.group?_within GroupName.size s _).trans ?_
    rw [other]
    rfl

theorem group?_suffix_label (p : LiteralParts) :
    Trail.group? GroupName.label p.suffix = p.label := by
  rw [suffix, group?_sized (by decide)]
  cases p.label with
  | none => rfl
  | some l => exact Trail.group?_within GroupName.label l [.char '\x7d']

theorem along_true (u : Trail) (p : LiteralParts) :
    p.along true u = Trail.within GroupName.digits p.digits ++
      (Trail.around GroupName.marker u ++ p.suffix) :=
  List.append_assoc ..

theorem along_false (u : Trail) (p : LiteralParts) :
    p.along false u = Trail.around GroupName.marker u ++
      (Trail.within GroupName.digits p.digits ++ p.suffix) :=
  List.append_assoc ..

section Groups

variable {name : Text} {u : Trail} (markerLast : Bool) (p : LiteralParts)

/-- Other groups than those of marker and digits are in the size and the label. -/
theorem group?_along_of_ne (hm : GroupName.marker ≠ name) (hd : GroupName.digits ≠ name)
    (he : Mark.enter name ∉ u) :
    Trail.group? name (p.along markerLast u) = Trail.group? name p.suffix := by
  cases markerLast with
  | true => rw [along_true, Trail.group?_within_of_ne hd, Trail.group?_around_of_ne hm he]
  | false => rw [along_false, Trail.group?_around_of_ne hm he, Trail.group?_within_of_ne hd]

theorem group?_along_digits (he : Mark.enter GroupName.digits ∉ u) :
    Trail.group? GroupName.digits (p.along markerLast u) = some p.digits := by
  have distinct : GroupName.marker ≠ GroupName.digits := by decide
  have last : (Trail.group? GroupName.digits p.suffix).or (some p.digits) = some p.digits := by
    rw [group?_suffix (by decide) (by decide)]
    rfl
  cases markerLast with
  | true =>
    rw [along_true, Trail.group?_within, Trail.group?_around_of_ne distinct he, last]
  | false =>
    rw [along_false, Trail.group?_around_of_ne distinct he, Trail.group?_within, last]

theorem group?_along_marker (he : Mark.enter GroupName.marker ∉ u)
    (hl : Mark.leave GroupName.marker ∉ u) :
    Trail.group? GroupName.marker (p.along markerLast u) = some u.taken := by
  have distinct : GroupName.digits ≠ GroupName.marker := by decide
  have last : (Trail.group? GroupName.marker p.suffix).or (some u.taken) = some u.taken := by
    rw [group?_suffix (by decide) (by decide)]
    rfl
  cases markerLast with
  | true =>
    rw [along_true, Trail.group?_within_of_ne distinct, Trail.group?_around he hl, last]
  | false =>
    rw [along_false, Trail.group?_around he hl, Trail.group?_within_of_ne distinct, last]

end Groups

/-- **The groups of the trail hold the parts,** if the marker has no groups of their
names. -/
theorem isOf_along {markerLast : Bool} {u : Trail} {p : LiteralParts} (h : u.taken = p.marker)
    (apart : ∀ name ∈ [GroupName.marker, GroupName.digits, GroupName.size, GroupName.label],
      Mark.enter name ∉ u ∧ Mark.leave name ∉ u)
    {hit : Hit} (ht : hit.trail = p.along markerLast u) : p.IsOf hit := by
  obtain ⟨enter, leave⟩ := apart GroupName.marker (by simp)
  have digits := (apart GroupName.digits (by simp)).1
  have size := (apart GroupName.size (by simp)).1
  have label := (apart GroupName.label (by simp)).1
  constructor <;> rw [Hit.group?, ht]
  · rw [group?_along_marker markerLast p enter leave, h]
  · exact group?_along_digits markerLast p digits
  · rw [group?_along_of_ne markerLast p (by decide) (by decide) size, group?_suffix_size]
  · rw [group?_along_of_ne markerLast p (by decide) (by decide) label, group?_suffix_label]

/-- Text has no groups at all. -/
theorem isOf_of_trail {markerLast : Bool} {p : LiteralParts} {hit : Hit}
    (ht : hit.trail = p.trail markerLast) : p.IsOf hit :=
  isOf_along (Trail.taken_ofText p.marker)
    (fun _ _ => ⟨Trail.not_mem_ofText (by simp) _, Trail.not_mem_ofText (by simp) _⟩) ht

/-- The group of the digits holds the digits. -/
theorem group?_trail_digits (markerLast : Bool) (p : LiteralParts) :
    Trail.group? GroupName.digits (p.trail markerLast) = some p.digits :=
  (isOf_of_trail (show (Hit.mk [] (p.trail markerLast) []).trail = _ from rfl)).digits

end LiteralParts
end AsmListing
