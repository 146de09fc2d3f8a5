/-
# The window

The window has three panes: the source with the choice of an architecture, the
settings, and the listing.  `Window.texts` gives all texts in it in the order in
which they are painted.
-/

import AsmListing.Viewer.Session
import AsmListing.Viewer.Painting

namespace AsmListing
namespace Viewer

/-- The panes of the window. -/
inductive Pane where
  | source
  | listing
  | settings
  deriving DecidableEq, Repr

namespace Window

/-- The title of a pane's tab. -/
def title (s : State) : Pane → Text
  | .source => "Source".toList
  | .settings => "Settings".toList
  | .listing =>
    match s.document.caption with
    | some caption => "Listing (".toList ++ caption ++ ")".toList
    | none => "Listing".toList

/-- What the listing pane paints. -/
def listing (s : State) : List Stroke :=
  Painting.document (Palette.ofTheme s.theme) s.document

/-- The name of the architecture that the source pane shows. -/
def archShown (s : State) : Text :=
  ((s.archKey.bind Architecture.builtin.lookup).map Architecture.Profile.name).getD
    "Generic".toList

/-- The texts in the source pane. -/
def sourceTexts (s : State) : List Text :=
  ["Open...".toList, archShown s, "Architecture".toList] ++ s.path.toList ++
    s.status.toList ++ [s.source]

/-- The texts in the settings pane. -/
def settingsTexts (s : Session) : List Text :=
  [CheckBox.overrideMarker.label, s.markerField, CheckBox.markerFirst.label,
    CheckBox.upperDigits.label, CheckBox.upperSizes.label, CheckBox.caption.label,
    "Comment glyph".toList, s.state.options.commentGlyph, s.themeShown.name, "Theme".toList]

/-- All texts in the window, in the order in which they are painted. -/
def texts (s : Session) : List Text :=
  [title s.state .source] ++ sourceTexts s.state ++
    [title s.state .settings] ++ settingsTexts s ++
    [title s.state .listing] ++ (listing s.state).map Stroke.text

end Window
end Viewer
end AsmListing
