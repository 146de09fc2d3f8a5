/-
# What a symbol stands for

A symbol stands for its literal as it would be displayed without the label.  That is so in
the strong sense: the args that are the literal without its label are one hex literal,
which is displayed as what the symbol stands for (`symbol_resolved`).

The text without the label is found as a whole (`Marking.find?_bare`), it has neither
blanks nor a semicolon (`isOperands_bare`), and nothing is left of it in which a register
could be found (`run_nil`).
-/

import AsmListing.Proofs.Args.Display
import AsmListing.Proofs.Literal.Bare

namespace AsmListing

open Architecture

namespace Args

/-! ### The shorter text -/

/-- A text without blanks and semicolons is an operand text. -/
theorem isOperands_of_forall {s : Text} (h : ∀ c ∈ s, isBlank c = false ∧ c ≠ ';') :
    IsOperands s where
  trimmed := by
    have left : Text.trimLeft s = s :=
      Text.trimLeft_eq_self fun c hc => (h c (List.mem_of_mem_head? hc)).1
    rw [Text.trim, left]
    refine List.rdropWhile_eq_self_iff.2 fun hs => ?_
    rw [(h _ (List.getLast_mem hs)).1]
    exact Bool.false_ne_true
  unmarked hc := (h _ hc).2 rfl

/-- A character is neither a blank nor a semicolon if it is none in lower case. -/
theorem unblank_of_toLower {c : Char} {cs : List Char} (hc : c.toLower ∈ cs)
    (h : cs.all (fun a => !isBlank a && a ≠ ';') = true) : isBlank c = false ∧ c ≠ ';' := by
  have other := List.all_eq_true.1 h _ hc
  rw [Bool.and_eq_true, Bool.not_eq_true', isBlank_toLower, decide_eq_true_eq] at other
  obtain ⟨unblank, unmarked⟩ := other
  refine ⟨unblank, ?_⟩
  rintro rfl
  exact unmarked rfl

/-- A literal without its label is an operand text. -/
theorem isOperands_bare {m : Marking} {s : Text} {p : LiteralParts} (h : m.front? s = some p) :
    IsOperands (p.bare.raw m.last) := by
  obtain ⟨word, known, here⟩ := List.exists_of_findSome?_eq_some h
  obtain ⟨r, rfl, -, hex, -, parts⟩ := m.frontWith?_eq_some here
  have signs : ∀ c ∈ p.marker, isBlank c = false ∧ c ≠ ';' := by
    intro c hc
    have sign := List.all_eq_true.1 (m.spelled _ known).2 _ (List.mem_map_of_mem hc)
    exact unblank_of_toLower (of_decide_eq_true sign) (by decide +kernel)
  have digits : ∀ c ∈ p.digits, isBlank c = false ∧ c ≠ ';' := by
    intro c hc
    refine ⟨isBlank_of_isHexDigit (hex c hc), ?_⟩
    rintro rfl
    exact absurd (hex _ hc) (by decide)
  have size : ∀ c ∈ p.size.getD [], isBlank c = false ∧ c ≠ ';' := by
    rw [show p.size = Marking.size? r from congrArg LiteralParts.size parts]
    rcases Marking.size?_cases r with h | ⟨c, _, -, letter, h⟩ <;> rw [h]
    · exact fun c hc => absurd hc List.not_mem_nil
    · intro d hd
      rcases List.mem_pair.1 hd with rfl | rfl
      · decide
      · exact unblank_of_toLower (of_decide_eq_true letter) (by decide +kernel)
  refine isOperands_of_forall fun c hc => ?_
  rw [LiteralParts.raw_bare, List.mem_append] at hc
  rcases hc with hc | hc
  · split at hc
    · exact (List.mem_append.1 hc).elim (digits c) (signs c)
    · exact (List.mem_append.1 hc).elim (signs c) (digits c)
  · exact size c hc


/-- Nothing is left of an empty text. -/
theorem run_nil {profile : Option Profile} (hp : ∀ p ∈ profile, p ∈ builtin.profiles) :
    run profile [] = [] := by
  cases profile with
  | none => rfl
  | some p =>
    have empty := Registry.matchesEmpty_of_mem ofDefinitions_definitions (hp p rfl)
    rw [Pattern.matchesEmpty, Option.isSome_eq_false_iff, Option.isNone_iff_eq_none] at empty
    exact run_of_none empty

/-! ### The symbol and the hex literal -/

/-- A token that shows a literal without a label is a hex literal. -/
theorem exists_hex_of_shows {markerLast zeroLed : Bool} {o : Options} {p : LiteralParts}
    {t : Token} (h : t.Shows markerLast zeroLed o p.bare) : ∃ marker digits last,
      t = .hex marker digits (p.shownSize o) last (p.bare.raw markerLast) ∧
        t.text = p.display o markerLast zeroLed := by
  obtain ⟨source, label, size, literal⟩ := h
  cases t with
  | hex marker digits size' last raw =>
    cases source
    cases size
    exact ⟨marker, digits, last, rfl, Option.some.inj literal⟩
  | symbol => cases label
  | register | sizeSuffix | comment | plain => cases literal

/-- The markers stand where the architecture says. -/
theorem marking_last {profile : Option Profile} (hp : ∀ p ∈ profile, p ∈ builtin.profiles) :
    (marking profile).last = markerLast profile := by
  cases profile with
  | none => rfl
  | some p => exact (Marking.marker_of_mem_builtin (hp p rfl)).2.symm

/-- A literal of a known architecture, or of none, is read by itself as a hex literal. -/
theorem tokens_bare {profile : Option Profile} (hp : ∀ p ∈ profile, p ∈ builtin.profiles)
    {s : Text} {p : LiteralParts} (read : (marking profile).front? s = some p)
    (free : p.barred (zeroLed profile) = false) (o : Options) :
    ∃ t : Token, t.Shows (markerLast profile) (zeroLed profile) o p.bare ∧
      tokens (some (p.bare.raw (markerLast profile))) profile o = .ok [t] := by
  have last := marking_last hp
  have scans : (literalStyle profile).pattern = (marking profile).literals :=
    Marking.literalStyle_pattern hp
  obtain ⟨hit, found, before, after, trail⟩ := (marking profile).find?_bare read
  have taken : hit.taken = p.bare.raw (markerLast profile) := by
    rw [Hit.taken, trail, LiteralParts.taken_trail, last]
  have operand := isOperands_bare read
  rw [← scans, last] at found
  rw [last] at operand
  obtain ⟨t, shows, operands_eq⟩ :=
    operands_of_isOf found (LiteralParts.isOf_of_trail trail) taken o
  refine ⟨t, shows, ?_⟩
  rw [tokens_of_isOperands operand, operands_eq, before, after, run_nil hp,
    show p.bare.barred (zeroLed profile) = false from free]
  rfl

/-- **A symbol stands for what its literal would be shown as without the label.**  For an
architecture that is always known, or for none, the args are taken apart, and a symbol among
their tokens is cut from a text that ends with its label in braces.  The args that are this
text without that ending are one hex literal.  It is cut from all of them, and it has the size
of the symbol and the text that the symbol stands for. -/
theorem symbol_resolved {profile : Option Profile} (hp : ∀ p ∈ profile, p ∈ builtin.profiles)
    (args : Option Text) (o : Options) :
    ∃ ts, tokens args profile o = .ok ts ∧
      ∀ label resolved size raw, .symbol label resolved size raw ∈ ts →
        ∃ bare, raw = bare ++ '\x7b' :: label ++ ['\x7d'] ∧ ∃ marker digits last,
          tokens (some bare) profile o = .ok [.hex marker digits size last bare] ∧
            (Token.hex marker digits size last bare).text = resolved := by
  cases args with
  | none => exact ⟨[], rfl, fun _ _ _ _ h => absurd h List.not_mem_nil⟩
  | some text =>
    have scans : (literalStyle profile).pattern = (marking profile).literals :=
      Marking.literalStyle_pattern hp
    rw [tokens_some]
    rcases (marking profile).find?_cases (splitComment text).1 with
      unfound | ⟨n, p, hit, read, found, trail⟩
    · rw [← scans] at unfound
      rw [operands_of_none unfound]
      exact ⟨_, rfl, fun _ _ _ _ h => nomatch isLiteral_of_mem_plain h⟩
    · have taken : hit.taken = p.raw (markerLast profile) := by
        rw [Hit.taken, trail, LiteralParts.taken_trail, marking_last hp]
      rw [← scans] at found
      obtain ⟨t, shows, operands_eq⟩ :=
        operands_of_isOf found (LiteralParts.isOf_of_trail trail) taken o
      rw [operands_eq]
      refine ⟨_, rfl, fun label resolved size raw h => ?_⟩
      obtain ⟨free, rfl⟩ := eq_of_isLiteral h rfl
      obtain ⟨source, labelled, sized, literal⟩ := shows
      obtain ⟨t, bare_shows, bare⟩ := tokens_bare hp read free o
      obtain ⟨marker, digits, last, rfl, text⟩ := exists_hex_of_shows bare_shows
      cases source
      cases sized
      exact ⟨_, LiteralParts.raw_of_label labelled.symm _, marker, digits, last, bare,
        text.trans (Option.some.inj literal).symm⟩

/-- A leading zero is dropped and the marker stays behind, in the symbol and without the
label. -/
theorem symbol_resolved_table :
    ∃ p o, builtin.lookup "x86".toList = some p ∧
      o = { marker := some "H".toList, upperDigits := true } ∧
      tokens (some "al, 0c8h.w\x7btable\x7d".toList) (some p) o =
        .ok [.register "al".toList, .plain ", ".toList,
          .symbol "table".toList "C8H.W".toList (some ".W".toList)
            "0c8h.w\x7btable\x7d".toList] ∧
      ∃ marker digits last, tokens (some "0c8h.w".toList) (some p) o =
          .ok [.hex marker digits (some ".W".toList) last "0c8h.w".toList] ∧
        (Token.hex marker digits (some ".W".toList) last "0c8h.w".toList).text =
          "C8H.W".toList := by
  obtain ⟨p, hp, shown⟩ := exists_lookup_builtin "x86".toList
    (fun p => (tokens (some "al, 0c8h.w\x7btable\x7d".toList) (some p)
      { marker := some "H".toList, upperDigits := true }).toOption = some
        [.register "al".toList, .plain ", ".toList,
          .symbol "table".toList "C8H.W".toList (some ".W".toList)
            "0c8h.w\x7btable\x7d".toList])
    (by decide +kernel)
  have tokens_eq := Certain.eq_ok_of_toOption (of_decide_eq_true shown)
  obtain ⟨ts, hts, resolved⟩ := symbol_resolved (mem_builtin_of_lookup hp) (some "al, 0c8h.w\x7btable\x7d".toList)
    { marker := some "H".toList, upperDigits := true }
  rw [tokens_eq] at hts
  cases hts
  obtain ⟨bare, split, shows⟩ := resolved _ _ _ _ (List.mem_of_getLast? rfl)
  have same : "0c8h.w".toList = bare := by
    have labelled : "0c8h.w".toList ++ '\x7b' :: "table".toList ++ ['\x7d'] =
      bare ++ '\x7b' :: "table".toList ++ ['\x7d'] := split
    exact List.append_cancel_right (List.append_cancel_right labelled)
  rw [← same] at shows
  exact ⟨p, _, hp, rfl, tokens_eq, shows⟩

end Args
end AsmListing
