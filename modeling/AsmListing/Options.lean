/-
# Display options

Options change what an annotated listing shows and never what is recognised
in it.
-/

import AsmListing.Text.Basic

namespace AsmListing

/-- How literals, comments and captions are shown. -/
structure Options where
  /-- Shown in place of the marker of every hex literal. -/
  marker : Option Text := none
  /-- Shows markers in front of the digits even where they follow them. -/
  markerFirst : Bool := false
  upperDigits : Bool := false
  upperSizes : Bool := true
  /-- Shown in place of a comment. -/
  commentGlyph : Text := ['/', '/']
  /-- Heads the listing with the name of its architecture. -/
  caption : Bool := true
  deriving DecidableEq, Repr

/-- A change of some of the options. -/
structure OptionsChange where
  marker : Option (Option Text) := none
  markerFirst : Option Bool := none
  upperDigits : Option Bool := none
  upperSizes : Option Bool := none
  commentGlyph : Option Text := none
  caption : Option Bool := none
  deriving DecidableEq, Repr

/-- The options after a change: what the change does not name stays. -/
def OptionsChange.apply (change : OptionsChange) (o : Options) : Options where
  marker := change.marker.getD o.marker
  markerFirst := change.markerFirst.getD o.markerFirst
  upperDigits := change.upperDigits.getD o.upperDigits
  upperSizes := change.upperSizes.getD o.upperSizes
  commentGlyph := change.commentGlyph.getD o.commentGlyph
  caption := change.caption.getD o.caption

end AsmListing
