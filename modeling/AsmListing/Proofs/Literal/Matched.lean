/-
# What a match of literals holds

The pattern of literals fixes what digits, sizes and labels are made of, whatever the
marker is.  A way through it goes through the parts in their order
(`Pattern.Leads.exists_along`).  The marker is a pattern by itself, and its groups are none of
the parts: a name may be given only once in the whole pattern
(`not_mem_groupNames_marker`).  So a match holds the parts of a literal, and its text is
the literal's (`exists_isOf`).
-/

import AsmListing.Proofs.Literal.Scanning
import AsmListing.Proofs.Pattern.GroupNames

namespace AsmListing

open Architecture

/-- What the digits, the size and the label of a literal are made of. -/
structure LiteralParts.Formed (p : LiteralParts) : Prop where
  nonempty : p.digits ≠ []
  digits : ∀ c ∈ p.digits, isHexDigit c = true
  size : ∀ s ∈ p.size, ∃ c, s = ['.', c] ∧ Opcode.isSizeLetter c = true
  label : ∀ l ∈ p.label, l ≠ [] ∧ '\x7d' ∉ l

namespace Pattern

namespace Leads

variable {p : Pattern} {set : CharSet} {b b' : Bool} {s s' : Text} {t : Trail}

theorem sequence_cons {ps : List Pattern} (h : Leads (sequence (p :: ps)) b s t b' s') :
    ∃ t₁ b₁ s₁ t₂, Leads p b s t₁ b₁ s₁ ∧ Leads (sequence ps) b₁ s₁ t₂ b' s' ∧ t = t₁ ++ t₂ := by
  cases ps with
  | nil => exact ⟨t, b', s', [], h, .empty b' s', (List.append_nil t).symm⟩
  | cons q qs =>
    cases h with
    | seq hp hq => exact ⟨_, _, _, _, hp, hq, rfl⟩

theorem inGroup {name : Text} (h : Leads (.group name p) b s t b' s') :
    ∃ u, Leads p b s u b' s' ∧ t = Trail.around name u := by
  cases h with
  | group _ h => exact ⟨_, h, rfl⟩

theorem inOne (h : Leads (.one set) b s t b' s') :
    ∃ c, set.has c = true ∧ t = [.char c] := by
  cases h with
  | one b s hc => exact ⟨_, hc, rfl⟩

theorem inOptional (h : Leads (.optional p true) b s t b' s') :
    t = [] ∨ Leads p b s t b' s' := by
  cases h with
  | altLeft _ h => exact .inr h
  | altRight _ h =>
    cases h
    exact .inl rfl

/-- A way through a loop over a set takes some members. -/
theorem inRun {eager : Bool} (h : Leads (.plus (.one set) eager) b s t b' s') :
    ∃ w, w ≠ [] ∧ (∀ c ∈ w, set.has c = true) ∧ t = Trail.ofText w := by
  generalize hq : Pattern.plus (.one set) eager = q at h
  induction h with
  | empty | one | atStart | atEnd | seq | altLeft | altRight | group => cases hq
  | starNone | starSome => cases hq
  | plusLast _ h =>
    cases hq
    obtain ⟨c, hc, rfl⟩ := h.inOne
    exact ⟨[c], List.cons_ne_nil _ _, by simpa using hc, rfl⟩
  | plusMore hp _ _ _ ih =>
    cases hq
    obtain ⟨c, hc, rfl⟩ := hp.inOne
    obtain ⟨w, -, hw, rfl⟩ := ih rfl
    exact ⟨c :: w, List.cons_ne_nil _ _, by simpa using ⟨hc, hw⟩, rfl⟩

theorem inDigits (h : Leads digitsPart b s t b' s') : ∃ digits : Text, digits ≠ [] ∧
    (∀ c ∈ digits, isHexDigit c = true) ∧ t = Trail.within GroupName.digits digits := by
  obtain ⟨u, run, rfl⟩ := h.inGroup
  obtain ⟨digits, nonempty, members, rfl⟩ := run.inRun
  rw [has_digitSet] at members
  exact ⟨digits, nonempty, members, rfl⟩

/-- A sign without case is taken as it is. -/
theorem inSign {a : Char} (ha : CaseFolding.isUncased a = true)
    (h : Leads (.one (.single a)) b s t b' s') : t = [.char a] := by
  obtain ⟨c, hc, rfl⟩ := h.inOne
  rw [CharSet.has_single_of_isUncased ha, decide_eq_true_eq] at hc
  rw [hc]

theorem inSize (h : Leads sizePart b s t b' s') :
    ∃ size : Option Text, (∀ z ∈ size, ∃ c, z = ['.', c] ∧ Opcode.isSizeLetter c = true) ∧
      t = (size.map (Trail.within GroupName.size)).getD [] := by
  rcases h.inOptional with rfl | h
  · exact ⟨none, by simp, rfl⟩
  · obtain ⟨u, inside, rfl⟩ := h.inGroup
    cases inside with
    | seq point letter =>
      obtain rfl := point.inSign (by decide +kernel)
      obtain ⟨c, hc, rfl⟩ := letter.inOne
      rw [has_sizeSet] at hc
      exact ⟨some ['.', c], by simpa using hc, rfl⟩

theorem inLabel (h : Leads labelPart b s t b' s') :
    ∃ label : Option Text, (∀ l ∈ label, l ≠ [] ∧ '\x7d' ∉ l) ∧
      t = (label.map fun l =>
        .char '\x7b' :: Trail.within GroupName.label l ++ [.char '\x7d']).getD [] := by
  rcases h.inOptional with rfl | h
  · exact ⟨none, by simp, rfl⟩
  · cases h with
    | seq opening h =>
      cases h with
      | seq label closing =>
        obtain rfl := opening.inSign (by decide +kernel)
        obtain rfl := closing.inSign (by decide +kernel)
        obtain ⟨u, run, rfl⟩ := label.inGroup
        obtain ⟨l, nonempty, members, rfl⟩ := run.inRun
        have unclosed : '\x7d' ∉ l := by
          intro hc
          have member := members _ hc
          rw [has_labelSet, decide_eq_true_eq] at member
          exact member rfl
        exact ⟨some l, by simpa using ⟨nonempty, unclosed⟩, rfl⟩

/-- What follows marker and digits is a size and a label, either of which may be absent. -/
theorem inSuffix (h : Leads (sequence [sizePart, labelPart]) b s t b' s') :
    ∃ size label, (∀ z ∈ size, ∃ c, z = ['.', c] ∧ Opcode.isSizeLetter c = true) ∧
      (∀ l ∈ label, l ≠ [] ∧ '\x7d' ∉ l) ∧
        ∀ marker digits, t = LiteralParts.suffix ⟨marker, digits, size, label⟩ := by
  obtain ⟨_, _, _, _, throughSize, throughLabel, rfl⟩ := h.sequence_cons
  obtain ⟨size, sized, rfl⟩ := throughSize.inSize
  obtain ⟨label, labelled, rfl⟩ := throughLabel.inLabel
  exact ⟨size, label, sized, labelled, fun _ _ => rfl⟩

/-- **A way through a literal goes through its parts in their order.** -/
theorem exists_along {m : Pattern} {markerLast : Bool}
    (h : Leads (sequence (literalParts m markerLast)) b s t b' s') :
    ∃ (parts : LiteralParts) (u : Trail), parts.Formed ∧ u.taken = parts.marker ∧
      (∃ b s b' s', Leads m b s u b' s') ∧ t = parts.along markerLast u := by
  cases markerLast with
  | true =>
    obtain ⟨_, _, _, _, throughDigits, others, rfl⟩ := h.sequence_cons
    obtain ⟨_, _, _, _, throughMarker, throughSuffix, rfl⟩ := sequence_cons others
    obtain ⟨digits, nonempty, hex, rfl⟩ := throughDigits.inDigits
    obtain ⟨u, inside, rfl⟩ := throughMarker.inGroup
    obtain ⟨size, label, sized, labelled, rest⟩ := inSuffix throughSuffix
    refine ⟨⟨u.taken, digits, size, label⟩, u, ⟨nonempty, hex, sized, labelled⟩, rfl,
      ⟨_, _, _, _, inside⟩, ?_⟩
    rw [rest u.taken digits, ← List.append_assoc]
    rfl
  | false =>
    obtain ⟨_, _, _, _, throughMarker, others, rfl⟩ := h.sequence_cons
    obtain ⟨_, _, _, _, throughDigits, throughSuffix, rfl⟩ := sequence_cons others
    obtain ⟨digits, nonempty, hex, rfl⟩ := throughDigits.inDigits
    obtain ⟨u, inside, rfl⟩ := throughMarker.inGroup
    obtain ⟨size, label, sized, labelled, rest⟩ := inSuffix throughSuffix
    refine ⟨⟨u.taken, digits, size, label⟩, u, ⟨nonempty, hex, sized, labelled⟩, rfl,
      ⟨_, _, _, _, inside⟩, ?_⟩
    rw [rest u.taken digits, ← List.append_assoc]
    rfl

end Leads
end Pattern

namespace Architecture

open Pattern

/-! ### The names of the groups -/

/-- The names in the pattern of literals are those of the parts, and those in the marker. -/
theorem gives_literalPattern {marker : Text} {markerLast : Bool} {names : List Text}
    (hm : Gives marker names) (hq : marker.head? ≠ some '?') :
    Gives (literalPattern marker markerLast)
      ((if markerLast then [GroupName.digits] ++ ([GroupName.marker] ++ names ++ [])
        else [GroupName.marker] ++ names ++ [] ++ [GroupName.digits]) ++
          [GroupName.size] ++ [GroupName.label]) := by
  have opening : Gives "(?P<notation>".toList [GroupName.marker] :=
    ⟨_, Certain.eq_ok_value (by decide +kernel), by decide +kernel⟩
  have closing : Gives ")".toList [] :=
    ⟨_, Certain.eq_ok_value (by decide +kernel), by decide +kernel⟩
  have digits : Gives "(?P<value>[0-9a-f]+)".toList [GroupName.digits] :=
    ⟨_, Certain.eq_ok_value (by decide +kernel), by decide +kernel⟩
  have size : Gives "(?P<size>\\.[qlwb])?".toList [GroupName.size] :=
    ⟨_, Certain.eq_ok_value (by decide +kernel), by decide +kernel⟩
  have label : Gives "(?:\\\x7b(?P<label>[^\x7d]+)\\\x7d)?".toList [GroupName.label] :=
    ⟨_, Certain.eq_ok_value (by decide +kernel), by decide +kernel⟩
  have marked := (opening.append hm hq).append closing (by decide)
  have ordered : Gives
      (if markerLast then "(?P<value>[0-9a-f]+)".toList ++ ("(?P<notation>".toList ++ marker ++
          ")".toList)
        else "(?P<notation>".toList ++ marker ++ ")".toList ++ "(?P<value>[0-9a-f]+)".toList)
      (if markerLast then [GroupName.digits] ++ ([GroupName.marker] ++ names ++ [])
        else [GroupName.marker] ++ names ++ [] ++ [GroupName.digits]) := by
    cases markerLast with
    | true => exact digits.append marked (by change some '(' ≠ some '?'; decide)
    | false => exact marked.append digits (by decide)
  exact (ordered.append size (by decide)).append label (by decide)

/-- **No group of the marker is named like a part.** -/
theorem not_mem_groupNames_marker {marker : Text} {markerLast : Bool} {m p : Pattern}
    (hm : Pattern.ofText marker = .ok m)
    (hp : Pattern.ofText (literalPattern marker markerLast) = .ok p) :
    ∀ name ∈ [GroupName.marker, GroupName.digits, GroupName.size, GroupName.label],
      name ∉ m.groupNames := by
  obtain ⟨inner, hi, -, known⟩ := named_of_ofText hm
  obtain ⟨all, ha, once, -⟩ := named_of_ofText hp
  rw [ha.unique (gives_literalPattern hi (head?_ne_of_ofText hm))] at once
  intro name part hn
  have given := known hn
  cases markerLast with
  | true => grind
  | false => grind

/-- **A match holds the parts of a literal, and its text is the literal's.** -/
theorem exists_isOf {marker : Text} {markerLast : Bool} {m p : Pattern}
    (hm : Pattern.ofText marker = .ok m)
    (hp : Pattern.ofText (literalPattern marker markerLast) = .ok p) {s : Text} {hit : Hit}
    (found : p.find? s = some hit) :
    ∃ parts : LiteralParts, parts.Formed ∧ parts.IsOf hit ∧ hit.taken = parts.raw markerLast := by
  have apart := not_mem_groupNames_marker hm hp
  rw [ofText_literalPattern hm hp] at found
  obtain ⟨⟨_, way⟩, -⟩ := leads_of_findFrom found
  obtain ⟨parts, u, formed, marked, ⟨_, _, _, _, inside⟩, trail⟩ := way.exists_along
  refine ⟨parts, formed, LiteralParts.isOf_along marked (fun name part => ?_) trail, ?_⟩
  · exact ⟨fun hn => apart name part (inside.mem_groupNames (.inl hn)),
      fun hn => apart name part (inside.mem_groupNames (.inr hn))⟩
  · rw [Hit.taken, trail, LiteralParts.taken_along markerLast marked]

end Architecture
end AsmListing
