/-
# The pattern of hex literals

Where the marker of an architecture is a pattern by itself, the pattern of its
literals has a fixed shape: the marker and the digits as groups in their order,
and then the size and the label, both of which may be absent
(`ofText_literalPattern`).  So every match has a marker and digits
(`complete_of_marker`).
-/

import AsmListing.Proofs.Architecture.Compiling
import AsmListing.Proofs.Pattern.Pasting

namespace AsmListing
namespace Architecture

open Pattern

/-- The sets of the characters that digits, sizes and labels are made of. -/
def digitSet : CharSet :=
  .union (.union .none (.range '0' '9')) (.range 'a' 'f')

def sizeSet : CharSet :=
  .unions [.single 'q', .single 'l', .single 'w', .single 'b']

def labelSet : CharSet :=
  .compl (.union .none (.single '\x7d'))

/-- The group of the digits. -/
def digitsPart : Pattern :=
  .group GroupName.digits (.plus (.one digitSet) true)

/-- The group of the size, or nothing. -/
def sizePart : Pattern :=
  .optional (.group GroupName.size (.seq (.one (.single '.')) (.one sizeSet))) true

/-- The group of the label in braces, or nothing. -/
def labelPart : Pattern :=
  .optional (.seq (.one (.single '\x7b'))
    (.seq (.group GroupName.label (.plus (.one labelSet) true)) (.one (.single '\x7d')))) true

theorem writes_digitsPart : Writes "(?P<value>[0-9a-f]+)".toList [digitsPart] := by
  have inner : Pattern.ofText "[0-9a-f]+".toList = .ok (.plus (.one digitSet) true) :=
    Certain.eq_ok_of_toOption (by decide +kernel)
  have opening : Lexeme.ofText 0 "(?P<value>".toList = .ok [.opening (some GroupName.digits)] :=
    Certain.eq_ok_of_toOption (by decide +kernel)
  exact writes_group inner opening

theorem writes_sizePart : Writes "(?P<size>\\.[qlwb])?".toList [sizePart] := by
  have lexemes : Lexeme.ofText 0 "(?P<size>\\.[qlwb])?".toList =
      .ok (.opening (some GroupName.size) :: ([.item (.one (.single '.')), .item (.one sizeSet)] ++
        [.closing]) ++ [.repeated ⟨0, some 1, true⟩]) :=
    Certain.eq_ok_of_toOption (by decide +kernel)
  have inner : ofLexemes [.item (.one (.single '.')), .item (.one sizeSet)] =
      .ok (.seq (.one (.single '.')) (.one sizeSet)) := rfl
  exact ⟨_, lexemes, (adds_group inner _).repeated _⟩

theorem writes_labelPart : Writes "(?:\\\x7b(?P<label>[^\x7d]+)\\\x7d)?".toList [labelPart] := by
  have lexemes : Lexeme.ofText 0 "(?:\\\x7b(?P<label>[^\x7d]+)\\\x7d)?".toList =
      .ok (.opening none :: ([.item (.one (.single '\x7b')), .opening (some GroupName.label),
        .item (.one labelSet), .repeated ⟨1, none, true⟩, .closing,
        .item (.one (.single '\x7d'))] ++ [.closing]) ++ [.repeated ⟨0, some 1, true⟩]) :=
    Certain.eq_ok_of_toOption (by decide +kernel)
  have inner : ofLexemes [.item (.one (.single '\x7b')), .opening (some GroupName.label),
      .item (.one labelSet), .repeated ⟨1, none, true⟩, .closing, .item (.one (.single '\x7d'))] =
      .ok (.seq (.one (.single '\x7b')) (.seq (.group GroupName.label (.plus (.one labelSet) true))
        (.one (.single '\x7d')))) := rfl
  exact ⟨_, lexemes, (adds_group inner _).repeated _⟩

/-- The marker and the digits in their order, and what may follow them. -/
def literalParts (marker : Pattern) (markerLast : Bool) : List Pattern :=
  (if markerLast then [digitsPart, .group GroupName.marker marker]
    else [.group GroupName.marker marker, digitsPart]) ++ [sizePart] ++ [labelPart]

/-- **A marker that is a pattern by itself is the marker of the literals.** -/
theorem ofText_literalPattern {marker : Text} {markerLast : Bool} {m p : Pattern}
    (hm : Pattern.ofText marker = .ok m)
    (hp : Pattern.ofText (literalPattern marker markerLast) = .ok p) :
    p = Pattern.sequence (literalParts m markerLast) := by
  have opening : Lexeme.ofText 0 "(?P<notation>".toList = .ok [.opening (some GroupName.marker)] :=
    Certain.eq_ok_of_toOption (by decide +kernel)
  have writesMarker : Writes ("(?P<notation>".toList ++ marker ++ ")".toList)
      [.group GroupName.marker m] := writes_group hm opening
  have ordered : Writes
      (if markerLast then "(?P<value>[0-9a-f]+)".toList ++ ("(?P<notation>".toList ++ marker ++
          ")".toList)
        else "(?P<notation>".toList ++ marker ++ ")".toList ++ "(?P<value>[0-9a-f]+)".toList)
      (if markerLast then [digitsPart, .group GroupName.marker m]
        else [.group GroupName.marker m, digitsPart]) := by
    cases markerLast with
    | true => exact writes_digitsPart.append writesMarker (by change some '(' ≠ some '?'; decide)
    | false => exact writesMarker.append writes_digitsPart (by decide)
  have writes : Writes (literalPattern marker markerLast) (literalParts m markerLast) :=
    (ordered.append writes_sizePart (by decide)).append writes_labelPart (by decide)
  exact writes.eq_sequence hp

/-- Every match of such a pattern has a marker and digits. -/
theorem binds_literalParts (m : Pattern) (markerLast : Bool) :
    (Pattern.sequence (literalParts m markerLast)).binds GroupName.marker = true ∧
      (Pattern.sequence (literalParts m markerLast)).binds GroupName.digits = true := by
  cases markerLast <;> simp [literalParts, Pattern.sequence, binds, digitsPart]

/-- The generic style reads its literals from the generic marker. -/
theorem ofText_generic :
    Pattern.ofText (literalPattern genericMarker false) = .ok LiteralStyle.generic.pattern :=
  Certain.eq_ok_value (by decide +kernel)

namespace Registry

/-- The literals of a profile in a registry are read from its marker. -/
theorem literals_of_mem {ds : List Definition} {r : Registry} (hr : ofDefinitions ds = .ok r)
    {p : Profile} (hp : p ∈ r.profiles) : Pattern.ofText
      (literalPattern p.definition.marker p.definition.markerLast) = .ok p.literals := by
  obtain ⟨d, -, compiled⟩ := exists_compile_of_mem hr hp
  obtain ⟨rfl, hl, -⟩ := Definition.eq_of_compileBy compiled
  exact p.definition.engine_compile_marker.symm.trans hl

/-- The registers of a profile in a registry do not match the empty text. -/
theorem matchesEmpty_of_mem {ds : List Definition} {r : Registry} (hr : ofDefinitions ds = .ok r)
    {p : Profile} (hp : p ∈ r.profiles) : p.registers.matchesEmpty = false := by
  obtain ⟨d, -, compiled⟩ := exists_compile_of_mem hr hp
  obtain ⟨-, -, -, unmatched⟩ := Definition.eq_of_compileBy compiled
  exact unmatched

/-- **In a registry, a marker that is a pattern by itself leaves no literal without
its parts.** -/
theorem complete_of_marker {ds : List Definition} {r : Registry} (hr : ofDefinitions ds = .ok r)
    {p : Profile} (hp : p ∈ r.profiles)
    (hm : (Pattern.ofText p.definition.marker).isOk = true) : p.literalStyle.complete = true := by
  obtain ⟨m, hm⟩ := Certain.isOk_iff.1 hm
  have hl := ofText_literalPattern hm (literals_of_mem hr hp)
  obtain ⟨hmarker, hdigits⟩ := binds_literalParts m p.definition.markerLast
  rw [LiteralStyle.complete, Profile.literalStyle, hl, hmarker, hdigits]
  rfl

end Registry
end Architecture
end AsmListing
