/-
# Showing the window

To show the window is no edit where a marker that is set is the text in the field for
it, and only there (`shown_eq_iff`).  In the window the two cannot differ, nor by any
other field of the state that is written past it: a run in which no step sets a marker
past the pane keeps them equal (`MarkerInField.run`).

A marker that is set past the pane is lost as soon as the window is shown, and since
nothing asks for a refresh then, the document keeps it.  The window has to be shown only
once for that: what it leaves is in its field (`markerInField_shown`).
-/

import AsmListing.Proofs.Viewer.Sync

namespace AsmListing
namespace Viewer
namespace Session

theorem markerInField_shown (s : Session) : s.shown.MarkerInField := by
  change s.state.options.marker.map (fun _ => s.markerField) = none ∨
    s.state.options.marker.map (fun _ => s.markerField) = some s.markerField
  cases s.state.options.marker with
  | none => exact .inl rfl
  | some _ => exact .inr rfl

/-- **Showing the window is no edit exactly where an override of the marker is the text
in its field.**  This holds after any steps, also such as write the state past the panes.
It is so after all steps of which none sets a marker past the settings pane, and always
when the window has just been shown.  In any case nothing but the override changes. -/
theorem show_eq_self_iff (source : Text) (path archKey : Option Text) (steps : List Step) :
    let s := (opening source path archKey).run steps
    (s.step .show = s ↔
      s.state.options.marker = none ∨ s.state.options.marker = some s.markerField) ∧
    ((∀ a ∈ steps, a.setsMarker = false) → s.step .show = s) ∧
    (s.step .show).step .show = s.step .show ∧
    ∃ marker, s.step .show =
      { s with state := { s.state with options := { s.state.options with marker } } } := by
  intro s
  refine ⟨shown_eq_iff, fun hs => ?_, ?_, _, rfl⟩
  · have kept : s.MarkerInField := MarkerInField.run (.inl rfl) hs
    exact shown_eq_iff.2 kept
  · exact shown_eq_iff.2 (markerInField_shown s)

/-- An override that is edited in its field is kept while the source, the architecture and
other options are written past the panes. -/
theorem show_eq_self_iff_edited :
    let s := (opening "0: a $1".toList none none).run [.toggle .overrideMarker,
      .editMarker ['#'], .setSource [], .setArch (some "z80".toList),
      .setOptions { upperDigits := some true }]
    s.state.options.marker = some ['#'] ∧ s.markerField = ['#'] ∧ s.step .show = s :=
  ⟨rfl, rfl, (show_eq_self_iff "0: a $1".toList none none [.toggle .overrideMarker,
    .editMarker ['#'], .setSource [], .setArch (some "z80".toList),
    .setOptions { upperDigits := some true }]).2.1 (by decide)⟩

/-- **An override that is set past the pane is overwritten when the window is shown,** and
the document, which was made with it, is not made anew. -/
theorem show_overwrites_marker :
    let s := (opening "0: a $1".toList none none).run
      [.setOptions { marker := some (some ['#']) }, .refresh]
    s.state.Fresh ∧ s.state.options.marker = some ['#'] ∧
      (s.step .show).state.options.marker = some ['0', 'x'] ∧ ¬ (s.step .show).state.Fresh := by
  refine ⟨rfl, rfl, rfl, ?_⟩
  change ¬ Document.annotate "0: a $1".toList none { marker := some ['#'] } =
    Document.annotate "0: a $1".toList none { marker := some ['0', 'x'] }
  decide +kernel

end Session
end Viewer
end AsmListing
