/-
# Sessions

A session is a state and the memory of the settings pane: the text in the field
for the marker, and the theme whose name is shown.  The settings pane writes the
text of that field into the options whenever it is shown, as far as the override
of the marker is on.

A step of a session edits the state and says whether the document has to be made
anew; `Session.step` then makes it.
-/

import AsmListing.Viewer.State

namespace AsmListing
namespace Viewer

/-- A state and the memory of the settings pane. -/
structure Session where
  state : State
  /-- The text in the field for the marker. -/
  markerField : Text
  /-- The theme whose name is shown. -/
  themeShown : Theme
  deriving DecidableEq, Repr

/-- The check boxes of the settings pane. -/
inductive CheckBox where
  | overrideMarker
  | markerFirst
  | upperDigits
  | upperSizes
  | caption
  deriving DecidableEq, Repr

namespace CheckBox

/-- All check boxes, from top to bottom. -/
def all : List CheckBox :=
  [overrideMarker, markerFirst, upperDigits, upperSizes, caption]

/-- What stands beside a check box. -/
def label : CheckBox → Text
  | overrideMarker => "Override hex notation".toList
  | markerFirst => "Show postfix notation in front".toList
  | upperDigits => "Capitalize hex values".toList
  | upperSizes => "Capitalize size suffixes".toList
  | caption => "Show architecture caption".toList

/-- The check box with a label. -/
def ofLabel? (label : Text) : Option CheckBox :=
  all.find? fun b => b.label = label

/-- The options after a click on the box, while `markerField` is the text in the
field for the marker. -/
def toggle (b : CheckBox) (markerField : Text) (o : Options) : Options :=
  match b with
  | overrideMarker => { o with marker := if o.marker.isSome then none else some markerField }
  | markerFirst => { o with markerFirst := !o.markerFirst }
  | upperDigits => { o with upperDigits := !o.upperDigits }
  | upperSizes => { o with upperSizes := !o.upperSizes }
  | caption => { o with caption := !o.caption }

end CheckBox

/-- What can be done in a session.  The first group is done from outside of the
window, the second in it. -/
inductive Step where
  | restart (source : Text) (archKey : Option Text)
  | sample
  | setSource (source : Text)
  | setArch (archKey : Option Text)
  | setStatus (status : Option Text)
  | setTheme (theme : Theme)
  | setOptions (change : OptionsChange)
  | refresh
  | openFile (path : Text) (bytes : Option ByteArray)
  | show
  | toggle (box : CheckBox)
  | chooseArch (archKey : Option Text)
  | chooseTheme (theme : Theme)
  | editSource (text : Text)
  | editGlyph (text : Text)
  | editMarker (text : Text)

/-- The entries of the menu of architectures, with the keys that they set. -/
def archMenu : List (Text × Option Text) :=
  ("Generic".toList, none) ::
    Architecture.builtin.profiles.map fun p => (p.name, some p.key)

/-- A session after an edit, and whether its document has to be made anew. -/
structure Edit where
  session : Session
  stale : Bool

namespace Session

/-- The session to begin with: no source, and no architecture. -/
def initial : Session where
  state := State.ofSource [] none
  markerField := ['0', 'x']
  themeShown := .mocha

/-- The session with its state changed. -/
def mapState (s : Session) (f : State → State) : Session :=
  { s with state := f s.state }

/-- The session with its options changed. -/
def mapOptions (s : Session) (f : Options → Options) : Session :=
  s.mapState fun t => { t with options := f t.options }

/-- The session after the window has been shown: an override of the marker is
the text in the field for it. -/
def shown (s : Session) : Session :=
  s.mapOptions fun o => { o with marker := o.marker.map fun _ => s.markerField }

/-- The edit that a step makes. -/
def edit (s : Session) : Step → Edit
  | .restart source archKey => ⟨{ s with state := State.unread source archKey }, true⟩
  | .sample => ⟨{ s with state := State.unread sampleListing (some sampleKey) }, true⟩
  | .setSource source => ⟨s.mapState fun t => { t with source }, false⟩
  | .setArch archKey => ⟨s.mapState fun t => { t with archKey }, false⟩
  | .setStatus status => ⟨s.mapState fun t => { t with status }, false⟩
  | .setTheme theme => ⟨s.mapState fun t => { t with theme }, false⟩
  | .setOptions change => ⟨s.mapOptions change.apply, false⟩
  | .refresh => ⟨s, true⟩
  | .openFile path bytes =>
    match s.state.loaded path bytes with
    | .ok state => ⟨{ s with state }, true⟩
    | .error _ => ⟨s, false⟩
  | .show => ⟨s.shown, false⟩
  | .toggle box => ⟨s.shown.mapOptions (box.toggle s.markerField), true⟩
  | .chooseArch archKey =>
    if s.state.archKey = archKey then ⟨s.shown, false⟩
    else ⟨s.shown.mapState fun t => { t with archKey }, true⟩
  | .chooseTheme theme =>
    ⟨{ s.shown.mapState (fun t => { t with theme }) with themeShown := theme }, false⟩
  | .editSource source => ⟨s.shown.mapState fun t => { t with source }, true⟩
  | .editGlyph commentGlyph => ⟨s.shown.mapOptions fun o => { o with commentGlyph }, true⟩
  | .editMarker text =>
    if s.state.options.marker.isSome then
      ⟨{ s with markerField := text }.mapOptions fun o => { o with marker := some text }, true⟩
    else ⟨s, false⟩

/-- The session after a step. -/
def step (s : Session) (a : Step) : Session :=
  let e := s.edit a
  if e.stale then e.session.mapState State.refresh else e.session

/-- The entries about a step. -/
def journal (s : Session) (a : Step) : List Entry :=
  (match a with
    | .openFile path bytes => State.readJournal path bytes
    | _ => []) ++
  (let e := s.edit a
    if e.stale then e.session.state.refreshJournal else [])

end Session
end Viewer
end AsmListing
