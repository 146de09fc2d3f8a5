/-
# The state of the viewer

What the viewer shows is a document made from a source, the key of an
architecture and some options.  Each of the three may change on its own; the
document follows when the state is refreshed.
-/

import AsmListing.Document
import AsmListing.Sample
import AsmListing.Viewer.Palette

namespace AsmListing
namespace Viewer

/-- What the viewer shows, and what it is made from. -/
structure State where
  source : Text
  path : Option Text
  archKey : Option Text
  options : Options
  document : Document
  theme : Theme
  status : Option Text
  deriving DecidableEq, Repr

/-- Why a file is not opened. -/
inductive OpenFault where
  | notFound
  /-- The bytes are not UTF-8. -/
  | invalidData
  deriving DecidableEq, Repr

namespace State

/-- The state with its document made anew. -/
def refresh (s : State) : State :=
  { s with document := Document.annotate s.source s.archKey s.options }

/-- The document is the one made from the source, the key and the options. -/
def Fresh (s : State) : Prop :=
  s.document = Document.annotate s.source s.archKey s.options

theorem fresh_refresh (s : State) : s.refresh.Fresh := rfl

theorem refresh_of_fresh {s : State} (h : s.Fresh) : s.refresh = s := by
  cases s
  simp only [Fresh] at h
  simp only [refresh, ← h]

/-- A source and an architecture, with the options and the theme that are set to
begin with, before anything is annotated. -/
def unread (source : Text) (archKey : Option Text) : State where
  source := source
  path := none
  archKey := archKey
  options := {}
  document := ⟨none, none, [], []⟩
  theme := .mocha
  status := none

/-- The state to begin with for a source and an architecture. -/
def ofSource (source : Text) (archKey : Option Text) : State :=
  (unread source archKey).refresh

/-- The state of a viewer that shows the sample. -/
def sample : State :=
  ofSource sampleListing (some sampleKey)

/-- The text of a file of which the bytes are given, if there is one. -/
def readFile (bytes : Option ByteArray) : Except OpenFault Text :=
  match bytes with
  | none => .error .notFound
  | some bytes =>
    match String.fromUTF8? bytes with
    | none => .error .invalidData
    | some s => .ok s.toList

/-- The state in which a file, read from the given bytes, has replaced the
source, but not yet the document. -/
def loaded (s : State) (path : Text) (bytes : Option ByteArray) : Except OpenFault State :=
  (readFile bytes).map fun source => { s with source, path := some path, status := none }

/-- The state in which a file is opened: loaded, and the document made anew. -/
def opened (s : State) (path : Text) (bytes : Option ByteArray) : Except OpenFault State :=
  (s.loaded path bytes).map refresh

/-- The entries about a file that has been read, before it is annotated. -/
def readJournal (path : Text) (bytes : Option ByteArray) : List Entry :=
  match readFile bytes with
  | .error _ => []
  | .ok source =>
    [⟨.info, "Loaded ".toList ++ path ++ " (".toList ++ Text.ofNat (Text.byteSize source) ++
      " bytes)".toList⟩]

/-- The entries about a refresh. -/
def refreshJournal (s : State) : List Entry :=
  Document.annotateJournal s.source s.archKey s.options

end State
end Viewer
end AsmListing
