/-
# Documents of joined texts

A document depends on its text through the lines of the text only (`ofText_congr`), and
no line depends on those around it (`Line.ofRecords_append`).  So where a text breaks
off at the end of a line, the document of it and of more text behind it has the lines
of both documents, and it fails where the first of them does, or else the second
(`ofText_append`).  How lines are ended makes no difference.
-/

import AsmListing.Document
import AsmListing.Proofs.Text.Lines

namespace AsmListing

open Architecture (Profile)

namespace Line

/-- The lines of some records and of more records are made one behind the other, and
the first failure is that of the whole. -/
theorem ofRecords_append (rs rs' : List Record) (profile : Option Profile) (o : Options) :
    ofRecords (rs ++ rs') profile o =
      (ofRecords rs profile o).bind fun ls => (ofRecords rs' profile o).map (ls ++ ·) := by
  induction rs with
  | nil =>
    change ofRecords rs' profile o = (ofRecords rs' profile o).map id
    cases ofRecords rs' profile o <;> rfl
  | cons r rs ih =>
    rw [List.cons_append, ofRecords, ofRecords, ih]
    cases ofRecord r profile o with
    | error e => rfl
    | ok l =>
      cases ofRecords rs profile o with
      | error e => rfl
      | ok ls => cases ofRecords rs' profile o <;> rfl

end Line

namespace Document

variable {profile : Option Profile} {o : Options}

/-- Texts with the same lines have the same document. -/
theorem ofText_congr {s t : Text} (h : Text.lines s = Text.lines t) :
    ofText s profile o = ofText t profile o := by
  rw [ofText, ofText, Record.ofText, Record.ofText, h]

/-- The lines of more text come behind the lines of a text that ends a line. -/
theorem ofText_append {s : Text} (hs : Text.EndsLine s) (t : Text) :
    ofText (s ++ t) profile o = (ofText s profile o).bind fun d =>
      (ofText t profile o).map fun e => { d with lines := d.lines ++ e.lines } := by
  have records : Record.ofText (s ++ t) = Record.ofText s ++ Record.ofText t := by
    rw [Record.ofText, Record.ofText, Record.ofText, Text.lines_append hs, List.map_append]
  rw [ofText, ofText, ofText, records, Line.ofRecords_append]
  cases Line.ofRecords (Record.ofText s) profile o with
  | error e => rfl
  | ok ls => cases Line.ofRecords (Record.ofText t) profile o <;> rfl

/-- **Lines are annotated on their own.**  Where a text ends a line, it and the text
behind it can be annotated together exactly when each of them can, and then their lines
and instructions are added up.  As long as there are no carriage returns, one may be put
before every line feed, and the last line may be ended. -/
theorem ofText_joined (profile : Option Profile) (o : Options) :
    (∀ s t f, Text.EndsLine s →
      (ofText (s ++ t) profile o = .ok f ↔ ∃ d e, ofText s profile o = .ok d ∧
        ofText t profile o = .ok e ∧ f = { d with lines := d.lines ++ e.lines } ∧
        f.instructionCount = d.instructionCount + e.instructionCount)) ∧
    (∀ t, '\r' ∉ t → ofText (Text.withReturns t) profile o = ofText t profile o) ∧
    ∀ t, '\r' ∉ t → t ≠ [] → t.getLast? ≠ some '\n' →
      ofText (t ++ ['\n']) profile o = ofText t profile o := by
  refine ⟨fun s t f hs => ?_, fun t ht => ofText_congr (Text.lines_withReturns ht),
    fun t ht nonempty unended => ofText_congr (Text.lines_concat_lf (not_or.2 ⟨nonempty, unended⟩) ht)⟩
  have counted : ∀ d e : Document, instructionCount { d with lines := d.lines ++ e.lines } =
      d.instructionCount + e.instructionCount := fun _ _ => List.countP_append
  rw [ofText_append hs]
  constructor
  · intro h
    obtain ⟨d, hd, h⟩ := Certain.bind_eq_ok_iff.1 h
    obtain ⟨e, he, rfl⟩ := Certain.map_eq_ok_iff.1 h
    exact ⟨d, e, hd, he, rfl, counted d e⟩
  · rintro ⟨d, e, hd, he, rfl, -⟩
    rw [hd, he]
    rfl

/-- Lines that are empty, that keep a carriage return, or that have no form; and a last
line that is not ended. -/
theorem ofText_joined_mov :
    (∃ f d e : Document, ofText ("0: mov $1\r\r\n\n".toList ++ "\r-- 1:\n2: ret".toList) none {} =
        .ok f ∧
      ofText "0: mov $1\r\r\n\n".toList none {} = .ok d ∧
      ofText "\r-- 1:\n2: ret".toList none {} = .ok e ∧ f.lines = d.lines ++ e.lines ∧
      d.lines.length = 2 ∧ e.lines.length = 2 ∧ f.instructionCount = 2) ∧
    ofText "0: mov $1\r\n\r\n2: ret".toList none {} = ofText "0: mov $1\n\n2: ret".toList none {} ∧
    ofText "0: mov $1\n\n2: ret\n".toList none {} = ofText "0: mov $1\n\n2: ret".toList none {} := by
  obtain ⟨joined, returns, ended⟩ := ofText_joined none {}
  have h := ofText_eq_ok_annotate ("0: mov $1\r\r\n\n".toList ++ "\r-- 1:\n2: ret".toList) none {}
  obtain ⟨d, e, hd, he, hf, -⟩ := (joined _ _ _ (.inr (by decide))).1 h
  have first := Except.ok.inj (hd.symm.trans (ofText_eq_ok_annotate _ none {}))
  have second := Except.ok.inj (he.symm.trans (ofText_eq_ok_annotate _ none {}))
  refine ⟨⟨_, d, e, h, hd, he, by rw [hf], ?_, ?_, by decide +kernel⟩,
    returns "0: mov $1\n\n2: ret".toList (by decide),
    ended "0: mov $1\n\n2: ret".toList (by decide) (by decide) (by decide)⟩
  · rw [first]
    decide +kernel
  · rw [second]
    decide +kernel

end Document
end AsmListing
