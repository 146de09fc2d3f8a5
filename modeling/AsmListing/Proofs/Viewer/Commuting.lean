/-
# Edits by different controls commute

A control writes a field of its own (`Session.write`), and writes to different fields
commute (`write_comm`).  A step does more than that: it shows the window first, and it
makes the document anew or leaves it, as the control decides.  In a session that is in
sync neither matters: the window shows what is there, and a document that is left is the
one that would be made, so that every step is a write and then a refresh
(`InSync.step_eq`).  No write reads the document (`refreshed_write`), so of two refreshes
only the last one counts.
-/

import AsmListing.Proofs.Viewer.Sync

namespace AsmListing
namespace Viewer

/-- The controls of the window that write fields of their own, whatever else is written. -/
inductive Control where
  | box (b : CheckBox)
  | archMenu
  | themeMenu
  | sourceField
  | glyphField
  deriving DecidableEq, Repr

/-- The control by which a step is made. -/
def Step.control? : Step → Option Control
  | .toggle b => some (.box b)
  | .chooseArch _ => some .archMenu
  | .chooseTheme _ => some .themeMenu
  | .editSource _ => some .sourceField
  | .editGlyph _ => some .glyphField
  | _ => none

theorem Step.bypasses_of_control {a : Step} (h : a.control?.isSome = true) :
    a.bypasses = false := by
  cases a with
  | setSource | setArch | setTheme | setOptions => cases h
  | _ => rfl

namespace CheckBox

theorem toggle_comm (b c : CheckBox) (field : Text) (o : Options) :
    c.toggle field (b.toggle field o) = b.toggle field (c.toggle field o) := by
  cases b <;> cases c <;> rfl

/-- **A check box clicked twice is as it was,** where an override that is lost is in its
field. -/
theorem toggle_toggle (b : CheckBox) {field : Text} {o : Options}
    (h : o.marker = none ∨ o.marker = some field) : b.toggle field (b.toggle field o) = o := by
  obtain ⟨marker, markerFirst, upperDigits, upperSizes, commentGlyph, caption⟩ := o
  cases b with
  | overrideMarker => obtain rfl | rfl : marker = none ∨ marker = some field := h <;> rfl
  | markerFirst | upperDigits | upperSizes | caption => simp [toggle]

end CheckBox

namespace Session

/-- What a control writes. -/
def write (s : Session) : Step → Session
  | .toggle box => s.mapOptions (box.toggle s.markerField)
  | .chooseArch archKey => s.mapState fun t => { t with archKey }
  | .chooseTheme theme => { s.mapState (fun t => { t with theme }) with themeShown := theme }
  | .editSource source => s.mapState fun t => { t with source }
  | .editGlyph commentGlyph => s.mapOptions fun o => { o with commentGlyph }
  | _ => s

/-- The session with its document made anew. -/
def refreshed (s : Session) : Session :=
  s.mapState State.refresh

theorem InSync.refreshed_eq {s : Session} (h : s.InSync) : s.refreshed = s := by
  rw [refreshed, mapState, State.refresh_of_fresh h.fresh]

/-- **Writes by different controls commute.** -/
theorem write_comm (s : Session) {a b : Step} (h : a.control? ≠ b.control?) :
    (s.write a).write b = (s.write b).write a := by
  cases a with
  | toggle box =>
    cases b with
    | toggle box' => simp only [write, mapOptions, mapState, box.toggle_comm box']
    | editGlyph => cases box <;> rfl
    | _ => rfl
  | editGlyph =>
    cases b with
    | toggle box => cases box <;> rfl
    | editGlyph => exact absurd rfl h
    | _ => rfl
  | chooseArch =>
    cases b with
    | chooseArch => exact absurd rfl h
    | _ => rfl
  | chooseTheme =>
    cases b with
    | chooseTheme => exact absurd rfl h
    | _ => rfl
  | editSource =>
    cases b with
    | editSource => exact absurd rfl h
    | _ => rfl
  | _ => rfl

/-- A write does not read the document. -/
theorem refreshed_write (s : Session) (a : Step) :
    (s.refreshed.write a).refreshed = (s.write a).refreshed := by
  cases a <;> rfl

/-- A document made by a step is the one that would be made after it. -/
theorem refreshed_step (s : Session) (a : Step) :
    (s.step a).refreshed = (s.edit a).session.refreshed := by
  unfold step
  dsimp only
  split <;> rfl

theorem InSync.edit_eq {s : Session} (h : s.InSync) {a : Step}
    (ha : a.control?.isSome = true) : (s.edit a).session = s.write a := by
  cases a with
  | toggle | chooseTheme | editSource | editGlyph =>
    simp only [edit, h.shown_eq]
    rfl
  | chooseArch archKey =>
    simp only [edit, h.shown_eq]
    split
    · next same =>
      rw [← same]
      rfl
    · rfl
  | _ => cases ha

/-- **Where all is in sync, a step is a write and then a refresh.** -/
theorem InSync.step_eq {s : Session} (h : s.InSync) {a : Step}
    (ha : a.control?.isSome = true) : s.step a = (s.write a).refreshed := by
  have synced := h.step (Step.bypasses_of_control ha)
  calc s.step a = (s.step a).refreshed := synced.refreshed_eq.symm
    _ = (s.edit a).session.refreshed := refreshed_step s a
    _ = (s.write a).refreshed := by rw [h.edit_eq ha]

theorem InSync.step_step {s : Session} (h : s.InSync) {a b : Step}
    (ha : a.control?.isSome = true) (hb : b.control?.isSome = true) :
    (s.step a).step b = ((s.write a).write b).refreshed := by
  rw [(h.step (Step.bypasses_of_control ha)).step_eq hb, h.step_eq ha, refreshed_write]

/-- **Edits by different controls commute, and a check box clicked twice is as it was.**
However a session has gone on from its opening by steps in the window, two steps by
different controls lead to the same session in either order: the same state, with its
document, and the same text and theme in the settings pane.  Two clicks on one check box
lead back to the session before them. -/
theorem steps_commute (source : Text) (path archKey : Option Text) (steps : List Step)
    (hs : ∀ a ∈ steps, a.bypasses = false) :
    let s := (opening source path archKey).run steps
    (∀ a b : Step, a.control?.isSome = true → b.control?.isSome = true →
      a.control? ≠ b.control? → (s.step a).step b = (s.step b).step a) ∧
    ∀ box, (s.step (.toggle box)).step (.toggle box) = s := by
  intro s
  have sync : s.InSync := (inSync_opening source path archKey).run hs
  constructor
  · intro a b ha hb other
    rw [sync.step_step ha hb, sync.step_step hb ha, write_comm s other]
  · intro box
    have back : (s.write (.toggle box)).write (.toggle box) = s := by
      change s.mapOptions (fun o => box.toggle s.markerField (box.toggle s.markerField o)) = s
      rw [mapOptions, mapState, box.toggle_toggle sync.marker]
    rw [sync.step_step rfl rfl, back, sync.refreshed_eq]

/-- An override is clicked off before and after another architecture is chosen, and on
again to what it was. -/
theorem steps_commute_overridden :
    let s := (opening sampleListing none (some sampleKey)).run
      [.toggle .overrideMarker, .editMarker ['#']]
    (s.step (.toggle .overrideMarker)).step (.chooseArch none) =
        (s.step (.chooseArch none)).step (.toggle .overrideMarker) ∧
      (s.step (.toggle .overrideMarker)).state.options.marker = none ∧
      (s.step (.toggle .overrideMarker)).step (.toggle .overrideMarker) = s ∧
      s.state.options.marker = some ['#'] := by
  obtain ⟨commute, back⟩ := steps_commute sampleListing none (some sampleKey)
    [.toggle .overrideMarker, .editMarker ['#']] (by decide)
  exact ⟨commute _ _ rfl rfl (by decide), rfl, back _, rfl⟩

end Session
end Viewer
end AsmListing
