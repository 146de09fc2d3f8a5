/-
# What is shown belongs to what it is made from

The document of a session may lag behind its source, its architecture and its
options only between an edit and the refresh after it.  An edit that asks for no
refresh changes none of the three (`fresh_edit`), so every step leaves a document
that was made from them (`InSync.step`).

The settings pane rewrites the marker in the options whenever it is shown, and
that asks for no refresh.  It does no harm because a marker that is set is always
the text in the pane's own field (`MarkerInField`): this is the second half of the
invariant, and with it showing the window changes nothing (`shown_eq_iff`).  Only a
marker that is set past the pane can break it (`MarkerInField.step`).

The fields of the state may also be written past the window
(`Step.bypasses`); the runs here are made of all other steps, in any order.
-/

import AsmListing.Viewer.Session

namespace AsmListing
namespace Viewer

/-- Whether a step writes the source, the architecture, the options or the theme
past the panes of the window. -/
def Step.bypasses : Step → Bool
  | .setSource _ | .setArch _ | .setTheme _ | .setOptions _ => true
  | _ => false

/-- Whether a step sets a marker past the settings pane. -/
def Step.setsMarker : Step → Bool
  | .setOptions change => change.marker.join.isSome
  | _ => false

theorem Step.setsMarker_of_bypasses {a : Step} (h : a.bypasses = false) :
    a.setsMarker = false := by
  cases a with
  | setOptions => cases h
  | _ => rfl

/-- Whether a step puts another state in the place of the whole state. -/
def Step.replaces : Step → Bool
  | .restart .. | .sample => true
  | _ => false

namespace Session

/-- The session in which the window opens on a source; on the sample listing and its
key it opens in `State.sample`. -/
def opening (source : Text) (path archKey : Option Text) : Session :=
  { initial with state := { State.ofSource source archKey with path } }

/-- The session after some steps. -/
def run (s : Session) (steps : List Step) : Session :=
  steps.foldl step s

/-- A marker that is set is the text in the field for it. -/
def MarkerInField (s : Session) : Prop :=
  s.state.options.marker = none ∨ s.state.options.marker = some s.markerField

/-- The document belongs to the rest of the state, and a marker that is set is
the text in the field for it. -/
structure InSync (s : Session) : Prop where
  fresh : s.state.Fresh
  marker : s.MarkerInField

/-- **Showing the window changes nothing exactly where a marker that is set is the text
in the field for it.** -/
theorem shown_eq_iff {s : Session} : s.shown = s ↔ s.MarkerInField := by
  obtain ⟨⟨_, _, _, ⟨marker, _, _, _, _, _⟩, _, _, _⟩, markerField, _⟩ := s
  constructor
  · intro h
    have rewritten : marker.map (fun _ => markerField) = marker :=
      congrArg (fun s => s.state.options.marker) h
    cases marker with
    | none => exact .inl rfl
    | some _ => exact .inr rewritten.symm
  · intro h
    obtain rfl | rfl : marker = none ∨ marker = some markerField := h <;> rfl

theorem InSync.shown_eq {s : Session} (h : s.InSync) : s.shown = s :=
  shown_eq_iff.2 h.marker

/-- Opening a file replaces the source and asks for a refresh, or does nothing. -/
theorem edit_openFile (s : Session) (path : Text) (bytes : Option ByteArray) :
    s.edit (.openFile path bytes) =
      match State.readFile bytes with
      | .ok source => ⟨s.mapState fun t => { t with source, path := some path, status := none }, true⟩
      | .error _ => ⟨s, false⟩ := by
  simp only [edit, State.loaded]
  cases State.readFile bytes <;> rfl

/-- No edit sets a marker that is not in its field, but for one that sets it past the
pane. -/
theorem MarkerInField.edit {s : Session} (h : s.MarkerInField) {a : Step}
    (ha : a.setsMarker = false) : (s.edit a).session.MarkerInField := by
  cases a with
  | restart | sample => exact .inl rfl
  | setSource | setArch | setStatus | setTheme | refresh => exact h
  | setOptions change =>
    change change.marker.getD s.state.options.marker = none ∨
      change.marker.getD s.state.options.marker = some s.markerField
    match hm : change.marker, ha with
    | none, _ => exact h
    | some none, _ => exact .inl rfl
    | some (some _), ha => simp [Step.setsMarker, hm] at ha
  | openFile path bytes =>
    rw [edit_openFile]
    cases State.readFile bytes <;> exact h
  | «show» | chooseTheme | editSource | editGlyph =>
    simp only [Session.edit, shown_eq_iff.2 h]
    exact h
  | toggle box =>
    simp only [Session.edit, shown_eq_iff.2 h]
    cases box with
    | overrideMarker =>
      simp only [mapOptions, mapState, CheckBox.toggle]
      split
      · exact .inl rfl
      · exact .inr rfl
    | markerFirst | upperDigits | upperSizes | caption => exact h
  | chooseArch archKey =>
    simp only [Session.edit, shown_eq_iff.2 h]
    split <;> exact h
  | editMarker text =>
    simp only [Session.edit]
    split
    · exact .inr rfl
    · exact h

theorem MarkerInField.step {s : Session} (h : s.MarkerInField) {a : Step}
    (ha : a.setsMarker = false) : (s.step a).MarkerInField := by
  unfold Session.step
  dsimp only
  split <;> exact h.edit ha

/-- **An edit that asks for no refresh needs none.** -/
theorem fresh_edit {s : Session} (h : s.InSync) {a : Step} (ha : a.bypasses = false)
    (hs : (s.edit a).stale = false) : (s.edit a).session.state.Fresh := by
  cases a with
  | setSource | setArch | setTheme | setOptions => cases ha
  | restart | sample | refresh | toggle | editSource | editGlyph => cases hs
  | setStatus => exact h.fresh
  | openFile path bytes =>
    rw [edit_openFile] at hs ⊢
    cases hr : State.readFile bytes with
    | error e => exact h.fresh
    | ok source => rw [hr] at hs; cases hs
  | «show» | chooseTheme =>
    simp only [edit, h.shown_eq]
    exact h.fresh
  | chooseArch archKey =>
    simp only [edit, h.shown_eq] at hs ⊢
    split at hs
    · next heq =>
      rw [if_pos heq]
      exact h.fresh
    · cases hs
  | editMarker text =>
    simp only [edit] at hs ⊢
    split at hs
    · cases hs
    · next hm =>
      rw [if_neg hm]
      exact h.fresh

/-- **Every step in the window keeps the session in sync.** -/
theorem InSync.step {s : Session} (h : s.InSync) {a : Step} (ha : a.bypasses = false) :
    (s.step a).InSync := by
  refine ⟨?_, MarkerInField.step h.marker (Step.setsMarker_of_bypasses ha)⟩
  unfold Session.step
  dsimp only
  split
  · exact State.fresh_refresh _
  · next hs => exact fresh_edit h ha (by simpa using hs)

/-- Unless the whole state is replaced, the theme stays the one whose name is
shown. -/
theorem theme_step {s : Session} (h : s.state.theme = s.themeShown) {a : Step}
    (ha : a.bypasses = false) (hr : a.replaces = false) :
    (s.step a).state.theme = (s.step a).themeShown := by
  have edited : (s.edit a).session.state.theme = (s.edit a).session.themeShown := by
    cases a with
    | setSource | setArch | setTheme | setOptions => cases ha
    | restart | sample => cases hr
    | setStatus | refresh | «show» | toggle | editSource | editGlyph => exact h
    | chooseTheme => rfl
    | openFile path bytes =>
      rw [edit_openFile]
      cases State.readFile bytes <;> exact h
    | chooseArch | editMarker =>
      simp only [edit]
      split <;> exact h
  unfold step
  dsimp only
  split <;> exact edited

theorem inSync_opening (source : Text) (path archKey : Option Text) :
    (opening source path archKey).InSync :=
  ⟨rfl, .inl rfl⟩

/-- What each of some steps keeps, a run of them keeps. -/
theorem run_keeps {P : Session → Prop} {steps : List Step}
    (kept : ∀ a ∈ steps, ∀ s : Session, P s → P (s.step a)) {s : Session} (h : P s) :
    P (s.run steps) := by
  induction steps generalizing s with
  | nil => exact h
  | cons a steps ih =>
    exact ih (fun b hb => kept b (List.mem_cons_of_mem _ hb))
      (kept a (List.mem_cons_self ..) s h)

/-- A session that is in sync stays so, however it goes on. -/
theorem InSync.run {s : Session} (h : s.InSync) {steps : List Step}
    (hs : ∀ a ∈ steps, a.bypasses = false) : (s.run steps).InSync :=
  run_keeps (fun a ha _ h => h.step (hs a ha)) h

theorem MarkerInField.run {s : Session} (h : s.MarkerInField) {steps : List Step}
    (hs : ∀ a ∈ steps, a.setsMarker = false) : (s.run steps).MarkerInField :=
  run_keeps (fun a ha _ h => h.step (hs a ha)) h

theorem theme_run {s : Session} (h : s.state.theme = s.themeShown) {steps : List Step}
    (hs : ∀ a ∈ steps, a.bypasses = false) (hr : ∀ a ∈ steps, a.replaces = false) :
    (s.run steps).state.theme = (s.run steps).themeShown :=
  run_keeps (P := fun s => s.state.theme = s.themeShown)
    (fun a ha _ h => theme_step h (hs a ha) (hr a ha)) h

/-- **The document and what it is made from never drift apart.**  However a
session goes on from its opening by steps in the window, in any order: the
document is the one made from the source, the architecture and the options; a
marker that is set is the text in the field for it; and unless the state was
replaced on the way, its theme is the one whose name is shown.  A run may end
anywhere, so this holds after each of its steps. -/
theorem inSync_run_opening (source : Text) (path archKey : Option Text) (steps : List Step)
    (hs : ∀ a ∈ steps, a.bypasses = false) :
    let s := (opening source path archKey).run steps
    s.state.document = Document.annotate s.state.source s.state.archKey s.state.options ∧
      (s.state.options.marker = none ∨ s.state.options.marker = some s.markerField) ∧
        ((∀ a ∈ steps, a.replaces = false) → s.state.theme = s.themeShown) := by
  have sync := (inSync_opening source path archKey).run hs
  exact ⟨sync.fresh, sync.marker, theme_run rfl hs⟩

/-- The marker is overridden and edited, the theme is chosen, a file is missing,
and the window is shown. -/
theorem inSync_run_opening_edited :
    ∃ steps : List Step, steps.length = 6 ∧ (∀ a ∈ steps, a.bypasses = false) ∧
      (∀ a ∈ steps, a.replaces = false) ∧
        let s := (opening sampleListing none (some sampleKey)).run steps
        s.state.document = Document.annotate s.state.source s.state.archKey s.state.options ∧
          s.state.options.marker = some s.markerField ∧ s.markerField = ['#'] ∧
            s.state.theme = s.themeShown ∧ s.themeShown = .latte := by
  refine ⟨[.toggle .overrideMarker, .editMarker ['#'], .chooseTheme .latte, .chooseArch none,
    .openFile [] none, .show], rfl, by decide, by decide, ?_⟩
  obtain ⟨fresh, marker, theme⟩ := inSync_run_opening sampleListing none (some sampleKey)
    [.toggle .overrideMarker, .editMarker ['#'], .chooseTheme .latte, .chooseArch none,
      .openFile [] none, .show] (by decide)
  exact ⟨fresh, marker.resolve_left nofun, rfl, theme (by decide), rfl⟩

end Session
end Viewer
end AsmListing
