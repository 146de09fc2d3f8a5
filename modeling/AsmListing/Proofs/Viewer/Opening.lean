/-
# Opening a file

A file is read exactly if it is there and its bytes are the encoding of a text
(`State.readFile_eq_ok_iff`), and a state opens it exactly if it can be read
(`State.opened_eq_ok_iff`).  The state that opens it takes over the text, forgets the status
and annotates anew, with the architecture and the options that it had; what its document
was before plays no part.

In a session a file that is not opened leaves everything as it was
(`Session.step_openFile`).
-/

import AsmListing.Proofs.Text.Utf8
import AsmListing.Proofs.Viewer.Sync

namespace AsmListing
namespace Viewer

namespace State

theorem readFile_of_isValidUTF8 {b : ByteArray} (h : b.IsValidUTF8) :
    readFile (some b) = .ok (String.fromUTF8 b h).toList := by
  simp only [readFile, String.fromUTF8?, dif_pos h]

theorem readFile_of_not_isValidUTF8 {b : ByteArray} (h : ¬ b.IsValidUTF8) :
    readFile (some b) = .error .invalidData := by
  simp only [readFile, String.fromUTF8?, dif_neg h]

/-- **A file has the text of which its bytes are the encoding.** -/
theorem readFile_eq_ok_iff {bytes : Option ByteArray} {source : Text} :
    readFile bytes = .ok source ↔ bytes = some source.utf8Encode := by
  cases bytes with
  | none => exact ⟨nofun, nofun⟩
  | some b =>
    by_cases valid : b.IsValidUTF8
    · have encoded : (String.fromUTF8 b valid).toList.utf8Encode = b := String.utf8Encode_toList
      rw [readFile_of_isValidUTF8 valid, Except.ok.injEq, Option.some.injEq]
      exact ⟨fun h => h ▸ encoded.symm, fun h => Utf8.utf8Encode_injective (encoded.trans h)⟩
    · rw [readFile_of_not_isValidUTF8 valid]
      refine ⟨nofun, fun h => absurd ?_ valid⟩
      rw [Option.some.inj h]
      exact ByteArray.isValidUTF8_utf8Encode

theorem readFile_eq_error_notFound_iff {bytes : Option ByteArray} :
    readFile bytes = .error .notFound ↔ bytes = none := by
  cases bytes with
  | none => exact ⟨fun _ => rfl, fun _ => rfl⟩
  | some b =>
    by_cases valid : b.IsValidUTF8
    · rw [readFile_of_isValidUTF8 valid]
      exact ⟨nofun, nofun⟩
    · rw [readFile_of_not_isValidUTF8 valid]
      exact ⟨nofun, nofun⟩

/-- A file is opened as it is read: by its text, with the document that belongs to it. -/
theorem opened_eq_map (s : State) (path : Text) (bytes : Option ByteArray) :
    s.opened path bytes = (readFile bytes).map fun source => { s with
      source, path := some path, status := none
      document := Document.annotate source s.archKey s.options } :=
  Certain.map_map _ _ _

/-- **A state opens a file exactly if it has a text,** and how it does so depends on the text,
the architecture and the options alone. -/
theorem opened_eq_ok_iff {s t : State} {path : Text} {bytes : Option ByteArray} :
    s.opened path bytes = .ok t ↔ ∃ source : Text, bytes = some source.utf8Encode ∧
      { s with source, path := some path, status := none
               document := Document.annotate source s.archKey s.options } = t := by
  rw [opened_eq_map, Certain.map_eq_ok_iff]
  exact exists_congr fun source => and_congr_left' readFile_eq_ok_iff

theorem opened_eq_error_iff {s : State} {path : Text} {bytes : Option ByteArray}
    {fault : OpenFault} : s.opened path bytes = .error fault ↔ readFile bytes = .error fault := by
  rw [opened_eq_map, Certain.map_eq_error_iff]

end State

namespace Session

/-- **A session takes over the state that opens the file,** and where there is none it stays
as it is. -/
theorem step_openFile (s : Session) (path : Text) (bytes : Option ByteArray) :
    s.step (.openFile path bytes) =
      match s.state.opened path bytes with
      | .ok state => { s with state }
      | .error _ => s := by
  unfold step
  dsimp only
  rw [edit_openFile, State.opened_eq_map]
  cases State.readFile bytes <;> rfl

/-- **A file is opened as a whole or not at all.**  In any state, whether or not its document
belongs to it, a file is opened exactly if it is there and its bytes are well-formed.  Then
the bytes are the encoding of the new source, the path is that of the file, there is no
status, the document is the one made from the source, the architecture and the options, and
all else is as it was.  Otherwise the fault tells a missing file from bytes that are no text,
and nothing in the session has changed. -/
theorem openFile_all_or_nothing (s : Session) (path : Text) (bytes : Option ByteArray) :
    ((∃ t, s.state.opened path bytes = .ok t) ↔
      ∃ b, bytes = some b ∧ Utf8.WellFormed b.data.toList) ∧
    (∀ t, s.state.opened path bytes = .ok t →
      s.step (.openFile path bytes) = { s with state := t } ∧
      bytes = some t.source.utf8Encode ∧
      t = { s.state with
        source := t.source, path := some path, status := none
        document := Document.annotate t.source s.state.archKey s.state.options }) ∧
    ∀ fault, s.state.opened path bytes = .error fault →
      s.step (.openFile path bytes) = s ∧ (fault = .notFound ↔ bytes = none) := by
  refine ⟨⟨?_, ?_⟩, fun t h => ?_, fun fault h => ?_⟩
  · rintro ⟨t, h⟩
    obtain ⟨source, rfl, -⟩ := State.opened_eq_ok_iff.1 h
    exact ⟨_, rfl, Utf8.wellFormed_data_iff.2 ⟨source, rfl⟩⟩
  · rintro ⟨b, rfl, formed⟩
    obtain ⟨source, rfl⟩ := Utf8.wellFormed_data_iff.1 formed
    exact ⟨_, State.opened_eq_ok_iff.2 ⟨source, rfl, rfl⟩⟩
  · refine ⟨by rw [step_openFile, h], ?_⟩
    obtain ⟨source, rfl, rfl⟩ := State.opened_eq_ok_iff.1 h
    exact ⟨rfl, rfl⟩
  · refine ⟨by rw [step_openFile, h], ?_⟩
    rw [← State.readFile_eq_error_notFound_iff, State.opened_eq_error_iff.1 h, Except.error.injEq]

/-- Where the document is not that of the source, a file with a byte order mark, a zero and a
carriage return is opened with all of them.  Bytes that are more than the character needs,
half of a pair of surrogates, and a character that is cut off change nothing. -/
theorem openFile_all_or_nothing_stale :
    let s := (opening "0: a $1".toList none none).step (.setSource [])
    let bytes : ByteArray := ⟨#[0xEF, 0xBB, 0xBF, 0x30, 0x3A, 0x20, 0x61, 0x00, 0x0D, 0x0A]⟩
    ¬ s.state.Fresh ∧
    (∃ t, s.state.opened [] (some bytes) = .ok t ∧
      s.step (.openFile [] (some bytes)) = { s with state := t } ∧ t.Fresh ∧
      t.source = "\ufeff0: a\x00\r\n".toList) ∧
    ∀ broken ∈ [[0xC0, 0x80], [0xED, 0xA0, 0x80], [0x61, 0xE2, 0x82]],
      s.step (.openFile [] (some ⟨⟨broken⟩⟩)) = s := by
  intro s bytes
  have encoded : bytes = "\ufeff0: a\x00\r\n".toList.utf8Encode := by decide +kernel
  have invalid : ∀ broken ∈ [[0xC0, 0x80], [0xED, 0xA0, 0x80], [0x61, 0xE2, 0x82]],
      ¬ ByteArray.IsValidUTF8 ⟨⟨broken⟩⟩ := by decide +kernel
  obtain ⟨opens, taken, -⟩ := openFile_all_or_nothing s [] (some bytes)
  obtain ⟨t, ht⟩ := opens.2 ⟨bytes, rfl, Utf8.wellFormed_data_iff.2 ⟨_, encoded⟩⟩
  obtain ⟨stepped, source, all⟩ := taken t ht
  refine ⟨?_, ⟨t, ht, stepped, ?_, ?_⟩, fun broken h => ?_⟩
  · change ¬ Document.annotate "0: a $1".toList none {} = Document.annotate [] none {}
    decide +kernel
  · rw [all]
    rfl
  · exact Utf8.utf8Encode_injective ((Option.some.inj source).symm.trans encoded)
  · obtain ⟨-, -, kept⟩ := openFile_all_or_nothing s [] (some ⟨⟨broken⟩⟩)
    have unread := State.readFile_of_not_isValidUTF8 (invalid broken h)
    exact (kept _ (State.opened_eq_error_iff.2 unread)).1

end Session
end Viewer
end AsmListing
