/-
# Profiles

A profile is a definition whose patterns have been read.  Its literal style
gathers what finding literals needs; the generic style serves listings of no
known architecture.

Which texts are patterns, and what a read pattern is, is up to an engine
(`Definition.compileBy`).  Profiles and faults are those of this library's own engine
where no other is named.
-/

import AsmListing.Certain
import AsmListing.Architecture.Definition
import AsmListing.Pattern.Engine
import AsmListing.Pattern.Binding

namespace AsmListing
namespace Architecture

/-- A definition with its patterns read. -/
structure Profile (Compiled : Type := Pattern) where
  definition : Definition
  literals : Compiled
  registers : Compiled
  deriving DecidableEq, Repr

/-- How hex literals are written. -/
structure LiteralStyle where
  /-- Matches a literal, its parts bound to the names in `GroupName`. -/
  pattern : Pattern
  markerLast : Bool
  zeroLed : Bool
  deriving DecidableEq, Repr

namespace LiteralStyle

/-- Every match has a marker and digits. -/
def complete (style : LiteralStyle) : Bool :=
  style.pattern.binds GroupName.marker && style.pattern.binds GroupName.digits

/-- The style where no architecture is chosen. -/
def generic : LiteralStyle where
  pattern := Certain.value (Pattern.ofText (literalPattern genericMarker false)) (by decide +kernel)
  markerLast := false
  zeroLed := false

theorem complete_generic : generic.complete = true := by decide +kernel

end LiteralStyle

namespace Profile

/-- The key of the architecture. -/
def key {Compiled : Type} (p : Profile Compiled) : Text :=
  p.definition.key

/-- The name of the architecture. -/
def name {Compiled : Type} (p : Profile Compiled) : Text :=
  p.definition.name

/-- How the architecture writes hex literals. -/
def literalStyle (p : Profile) : LiteralStyle :=
  ⟨p.literals, p.definition.markerLast, p.definition.zeroLed⟩

end Profile

/-- The style of a profile's literals, the generic one where there is none. -/
def literalStyle (profile : Option Profile) : LiteralStyle :=
  (profile.map Profile.literalStyle).getD LiteralStyle.generic

/-- The fields of a definition that hold written patterns. -/
inductive Field where
  | marker
  | registers
  deriving DecidableEq, Repr

/-- What a field is called. -/
def Field.name : Field → Text
  | marker => "hex notation".toList
  | registers => "register".toList

/-- Why a list of definitions is refused. -/
inductive Fault (Cause : Type := Pattern.Fault) where
  | invalidPattern (key : Text) (field : Field) (cause : Cause)
  /-- The pattern would find registers where there is no text. -/
  | emptyMatch (key : Text) (field : Field)
  | repeatedKey (key : Text)
  deriving DecidableEq, Repr

namespace Fault

/-- What is wrong, up to the cause. -/
def headline {Cause : Type} : Fault Cause → Text
  | invalidPattern key field _ =>
    "architecture `".toList ++ key ++ "` has an invalid ".toList ++ field.name ++
      " pattern: ".toList
  | emptyMatch key field =>
    "architecture `".toList ++ key ++ "` has a ".toList ++ field.name ++
      " pattern that matches empty text".toList
  | repeatedKey key => "architecture `".toList ++ key ++ "` is defined more than once".toList

/-- What is wrong, with the cause. -/
def message : Fault → Text
  | f@(invalidPattern _ _ cause) => f.headline ++ cause.message
  | f => f.headline

end Fault

namespace Definition

variable {Compiled Cause : Type}

/-- The whole pattern that is written around a field of a definition. -/
def written (d : Definition) : Field → Text
  | .marker => Pattern.caseless ++ literalPattern d.marker d.markerLast
  | .registers => Pattern.caseless ++ registerPattern d.registers

theorem engine_compile_marker (d : Definition) : Pattern.engine.compile (d.written .marker) =
    Pattern.ofText (literalPattern d.marker d.markerLast) :=
  Pattern.engine_compile_caseless _

theorem engine_compile_registers (d : Definition) :
    Pattern.engine.compile (d.written .registers) =
      Pattern.ofText (registerPattern d.registers) :=
  Pattern.engine_compile_caseless _

/-- The pattern of a field of a definition.  One for registers must have no match in the
empty text. -/
def readField (engine : Engine Compiled Cause) (d : Definition) (field : Field) :
    Except (Fault Cause) Compiled := do
  let pattern ← (engine.compile (d.written field)).mapError (.invalidPattern d.key field)
  if field = .registers && engine.isMatch pattern [] then throw (.emptyMatch d.key field)
  return pattern

/-- The profile of a definition, its patterns read by an engine. -/
def compileBy (engine : Engine Compiled Cause) (d : Definition) :
    Except (Fault Cause) (Profile Compiled) := do
  let literals ← d.readField engine .marker
  let registers ← d.readField engine .registers
  return ⟨d, literals, registers⟩

/-- The profile of a definition. -/
abbrev compile (d : Definition) : Except Fault Profile :=
  d.compileBy Pattern.engine

end Definition
end Architecture
end AsmListing
