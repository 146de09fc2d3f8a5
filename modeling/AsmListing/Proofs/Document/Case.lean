/-
# Case never changes the structure of a document

Two texts with the same letters have documents with the same letters
(`Document.exists_sameLetters`): as many lines, each an instruction in both or in
neither, with tokens of the same kinds that are cut from the same places.  What the
tokens are cut from, what they show and what they answer when asked about has the same
letters too.

Both documents are compared with that of the text in lower case, in which every part
is in lower case what it is in the document (`Line.ofRecord_lower`).
-/

import AsmListing.Proofs.Args.Case
import AsmListing.Proofs.Document.Lines
import AsmListing.Proofs.Record.Case

namespace AsmListing

open Architecture (Profile)

/-! ### Parts with the same letters -/

/-- Tokens of one kind whose texts have the same letters. -/
structure Token.SameLetters (t u : Token) : Prop where
  kind : t.kind = u.kind
  /-- So they are cut from texts of one length (`Text.SameLetters.length_eq`). -/
  source : Text.SameLetters t.source u.source
  /-- For a symbol, the label. -/
  text : Text.SameLetters t.text u.text
  /-- For a symbol, the literal that it stands for. -/
  hover : Option.Rel Text.SameLetters t.hover u.hover

/-- Lines of one form whose texts have the same letters. -/
inductive Line.SameLetters : Line → Line → Prop where
  | instruction {address address' : Text} {opcode opcode' args args' : List Token}
      (ha : Text.SameLetters address address')
      (ho : List.Forall₂ Token.SameLetters opcode opcode')
      (hr : List.Forall₂ Token.SameLetters args args') :
    SameLetters (.instruction address opcode args) (.instruction address' opcode' args')
  | unformatted {t t' : Token} (h : Token.SameLetters t t') :
    SameLetters (.unformatted t) (.unformatted t')

/-- Documents whose lines have the same letters, and which are the same for the rest. -/
structure Document.SameLetters (d d' : Document) : Prop where
  caption : d.caption = d'.caption
  archKey : d.archKey = d'.archKey
  commentGlyph : d.commentGlyph = d'.commentGlyph
  lines : List.Forall₂ Line.SameLetters d.lines d'.lines

theorem Token.sameLetters_of_lower {t u : Token} (h : t.lower = u.lower) : SameLetters t u where
  kind := by rw [← t.kind_lower, h, u.kind_lower]
  source := by rw [Text.SameLetters, ← t.source_lower, h, u.source_lower]
  text := by rw [Text.SameLetters, ← t.text_lower, h, u.text_lower]
  hover := Text.rel_of_map_lower_eq (by rw [← t.hover_lower, h, u.hover_lower])

theorem Token.forall₂_sameLetters {ts us : List Token}
    (h : ts.map Token.lower = us.map Token.lower) : List.Forall₂ SameLetters ts us :=
  (map_eq_map_iff_forall₂.1 h).imp fun _ _ => sameLetters_of_lower

/-! ### Opcodes -/

namespace Opcode

theorem isSizeLetter_toLower (c : Char) : isSizeLetter c.toLower = isSizeLetter c := by
  rw [isSizeLetter, toLower_toLower, isSizeLetter]

theorem splitSize_lower (s : Text) :
    splitSize (Text.lower s) = (splitSize s).map (Prod.map Text.lower Text.lower) := by
  fun_induction splitSize s with
  | case1 => rfl
  | case2 c hc =>
    change splitSize ['.', c.toLower] = _
    rw [splitSize, if_pos (by rw [isSizeLetter_toLower, hc])]
    rfl
  | case3 c hc =>
    change splitSize ['.', c.toLower] = _
    rw [splitSize, if_neg (by rwa [isSizeLetter_toLower])]
    rfl
  | case4 c s hs ih =>
    change splitSize (c.toLower :: Text.lower s) = _
    rw [splitSize, ih, Option.map_map, Option.map_map]
    · rfl
    · -- a single character behind a point stays one
      intro d hc hd
      obtain ⟨e, he, -⟩ := List.map_eq_singleton_iff.1 hd
      exact hs e ((toLower_eq_iff (by decide)).1 hc) he

/-- The tokens of an opcode in lower case are those of the opcode, in lower case. -/
theorem tokens_lower (opcode : Text) (profile : Option Profile) :
    tokens (Text.lower opcode) profile = (tokens opcode profile).map Token.lower := by
  unfold tokens
  by_cases hp : profile.any (·.definition.sizedOpcodes) = true
  · rw [if_pos hp, if_pos hp, splitSize_lower]
    rcases splitSize opcode with _ | ⟨_ | ⟨c, stem⟩, suffix⟩ <;> rfl
  · rw [if_neg hp, if_neg hp]
    rfl

end Opcode

/-! ### Lines -/

namespace Line

/-- The line with all its texts in lower case. -/
def lower : Line → Line
  | instruction address opcode args =>
    instruction (Text.lower address) (opcode.map Token.lower) (args.map Token.lower)
  | unformatted t => unformatted t.lower

theorem sameLetters_of_lower {l l' : Line} (h : l.lower = l'.lower) : SameLetters l l' := by
  cases l with
  | unformatted t =>
    cases l' with
    | unformatted t' =>
      injection h with h
      exact .unformatted (Token.sameLetters_of_lower h)
    | instruction address' opcode' args' => cases h
  | instruction address opcode args =>
    cases l' with
    | unformatted t' => cases h
    | instruction address' opcode' args' =>
      injection h with ha ho hr
      exact .instruction ha (Token.forall₂_sameLetters ho) (Token.forall₂_sameLetters hr)

/-- **The line of a record in lower case is that of the record, up to case.** -/
theorem ofRecord_lower (record : Record) (profile : Option Profile) (o : Options) :
    (ofRecord record.lower profile o).map lower = (ofRecord record profile o).map lower := by
  cases record with
  | unformatted text =>
    exact congrArg (fun s => Except.ok (unformatted (.plain s))) (Text.lower_lower text)
  | instruction address opcode args =>
    have opcodes : (Opcode.tokens (Text.lower opcode) profile).map Token.lower =
        (Opcode.tokens opcode profile).map Token.lower := by
      rw [Opcode.tokens_lower, List.map_map]
      exact List.map_congr_left fun t _ => t.lower_lower
    have parts : ∀ (a : Text) (ts : List Token), lower ∘ instruction a ts =
        instruction (Text.lower a) (ts.map Token.lower) ∘ List.map Token.lower :=
      fun _ _ => rfl
    rw [Record.lower, ofRecord, ofRecord, Certain.map_map, Certain.map_map, parts, parts,
      ← Certain.map_map, ← Certain.map_map, Args.tokens_lower, Text.lower_lower, opcodes]

variable {profile : Option Profile} {o : Options}

/-- Of two records with the same letters, both have a line or none has. -/
theorem exists_of_ofRecord {r r' : Record} (hr : r.lower = r'.lower) {l : Line}
    (h : ofRecord r profile o = .ok l) :
    ∃ l', ofRecord r' profile o = .ok l' ∧ SameLetters l l' := by
  have same : (ofRecord r' profile o).map lower = .ok l.lower := by
    rw [← ofRecord_lower, ← hr, ofRecord_lower, h]
    rfl
  obtain ⟨l', h', hl⟩ := Certain.map_eq_ok_iff.1 same
  exact ⟨l', h', sameLetters_of_lower hl.symm⟩

theorem exists_of_ofRecords {rs rs' : List Record}
    (hr : List.Forall₂ (fun r r' => Record.lower r = Record.lower r') rs rs') {ls : List Line}
    (h : ofRecords rs profile o = .ok ls) :
    ∃ ls', ofRecords rs' profile o = .ok ls' ∧ List.Forall₂ SameLetters ls ls' := by
  rw [ofRecords_eq_ok_iff] at h
  induction hr generalizing ls with
  | nil =>
    cases h
    exact ⟨[], rfl, .nil⟩
  | cons hr _ ih =>
    obtain ⟨l, ls, hl, hls, rfl⟩ := List.forall₂_cons_left_iff.1 h
    obtain ⟨l', hl', same⟩ := exists_of_ofRecord hr hl
    obtain ⟨ls', hls', sames⟩ := ih hls
    refine ⟨l' :: ls', ?_, .cons same sames⟩
    rw [ofRecords, hl', hls']
    rfl

end Line

namespace Document

/-- **Case never changes the structure of a document.**  Where two texts have the same
letters and one of them can be annotated, the other can, under the same profile and
options, and their documents have the same letters. -/
theorem exists_sameLetters {text text' : Text} (ht : Text.SameLetters text text')
    {profile : Option Profile} {o : Options} {d : Document} (h : ofText text profile o = .ok d) :
    ∃ d', ofText text' profile o = .ok d' ∧ SameLetters d d' := by
  have records :
      (Record.ofText text).map Record.lower = (Record.ofText text').map Record.lower := by
    rw [← Record.ofText_lower, ht, Record.ofText_lower]
  obtain ⟨ls, hls, rfl⟩ := Certain.map_eq_ok_iff.1 h
  obtain ⟨ls', hls', same⟩ := Line.exists_of_ofRecords (map_eq_map_iff_forall₂.1 records) hls
  exact ⟨ofLines ls' profile o, by rw [ofText, hls']; rfl, rfl, rfl, rfl, same⟩

/-- The `x` of a marker, digits, a size, a label and a line without form in other
cases. -/
theorem exists_sameLetters_mov :
    ∃ d d' : Document,
      ofText "0aF: Mov.w 0xFf.B, y ; Hi\n1: jmp $ff\x7bLoop\x7d\n-- End".toList none {} = .ok d ∧
      ofText "0Af: mOV.W 0XfF.b, Y ; hI\n1: JMP $Ff\x7blooP\x7d\n-- eND".toList none {} = .ok d' ∧
      (d.lines.map fun l => l.tokens.map fun t => (t.kind, t.text)) =
        [[(.plain, "Mov.w".toList), (.hex, "0xFf.B".toList), (.plain, ", y".toList),
          (.comment, "Hi".toList)],
         [(.plain, "jmp".toList), (.symbol, "Loop".toList)], [(.plain, "-- End".toList)]] ∧
      SameLetters d d' := by
  have h := ofText_eq_ok_annotate
    "0aF: Mov.w 0xFf.B, y ; Hi\n1: jmp $ff\x7bLoop\x7d\n-- End".toList none {}
  have letters : Text.SameLetters
      "0aF: Mov.w 0xFf.B, y ; Hi\n1: jmp $ff\x7bLoop\x7d\n-- End".toList
      "0Af: mOV.W 0XfF.b, Y ; hI\n1: JMP $Ff\x7blooP\x7d\n-- eND".toList := by decide
  obtain ⟨d', h', same⟩ := exists_sameLetters letters h
  exact ⟨_, d', h, h', by decide +kernel, same⟩

end Document
end AsmListing
