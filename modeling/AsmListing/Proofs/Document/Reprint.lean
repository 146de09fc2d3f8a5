/-
# Printed documents

A document is printed from the sources of its tokens, in one layout for every
line:

    address ": " opcode (" " operands)? (" ; " comment)?

The layout is canonical.  The blanks around the args and the comment were dropped
when the document was made, and those of the layout are dropped again, so each
printed line spells the same address and opcode (`Record.Reads`) and args that
are taken apart into the same tokens (`exists_readsArgs_printArgs`).  With that a
document is read back from its print whatever it was made from
(`ofText_print`).
-/

import AsmListing.Proofs.Document.Lines
import AsmListing.Proofs.Record.Grammar
import AsmListing.Proofs.Text.Lines

namespace AsmListing

open Architecture (Profile)

/-- **The sources of the tokens of an opcode make up the opcode.** -/
theorem Opcode.flatMap_source_tokens (opcode : Text) (profile : Option Profile) :
    (tokens opcode profile).flatMap Token.source = opcode := by
  unfold tokens
  split
  · split
    · next suffix h => simp [Token.source, append_of_splitSize h]
    · next stem suffix _ h => simp [Token.source, append_of_splitSize h]
    · simp [Token.source]
  · simp [Token.source]

namespace Line

/-- The text printed behind the opcode. -/
def printArgs (operands : List Token) (comment : Option Token) : Text :=
  (if operands.isEmpty then [] else ' ' :: operands.flatMap Token.source) ++
    (comment.map fun c => " ; ".toList ++ c.source).getD []

/-- A line printed. -/
def print : Line → Text
  | instruction address opcode args =>
    address ++ ": ".toList ++ opcode.flatMap Token.source ++
      printArgs (instruction address opcode args).operands (instruction address opcode args).comment
  | unformatted t => t.source

end Line

/-- A document printed, each of its lines with a line end. -/
def Document.print (d : Document) : Text :=
  d.lines.flatMap fun l => l.print ++ ['\r', '\n']

namespace Line

/-- What is printed behind an opcode is nothing, or a blank and a text that is
split into the operands and the comment again. -/
theorem printArgs_cases {left : Text} {comment : Option Text} {ts : List Token}
    (hleft : Args.IsOperands left) (hcomment : ∀ c ∈ comment, Text.trim c = c)
    (hts : ts.flatMap Token.source = left) :
    (ts = [] ∧ comment = none) ∨ ∃ s, printArgs ts (comment.map Token.comment) = ' ' :: s ∧
      Args.splitComment s = (left, comment) ∧
        ∀ d ∈ s, d ∈ left ∨ d ∈ comment.getD [] ∨ d = ' ' ∨ d = ';' := by
  have blank : isBlank ' ' = true := by decide
  cases comment with
  | none =>
    cases ts with
    | nil => exact .inl ⟨rfl, rfl⟩
    | cons t ts =>
      refine .inr ⟨left, by simp [printArgs, ← hts], hleft.splitComment_eq, fun d hd => .inl hd⟩
  | some c =>
    have hc : Text.trim (' ' :: c) = c := (Text.trim_cons blank c).trans (hcomment c rfl)
    right
    cases ts with
    | nil =>
      subst hts
      refine ⟨[] ++ ';' :: ' ' :: c, rfl, ?_, by simp; tauto⟩
      rw [Args.splitComment_append List.not_mem_nil, hc]
      rfl
    | cons t ts =>
      refine ⟨(left ++ [' ']) ++ ';' :: ' ' :: c, by simp [printArgs, ← hts, Token.source], ?_,
        by simp; tauto⟩
      rw [Args.splitComment_append (by simpa using hleft.unmarked), hc, Text.trim_concat blank,
        hleft.trimmed]

/-- What is printed behind an opcode spells args with the same tokens. -/
theorem exists_readsArgs_printArgs {args : Option Text} {profile : Option Profile} {o : Options}
    {ts : List Token} (h : Args.tokens args profile o = .ok ts) (hargs : ∀ s ∈ args, '\n' ∉ s)
    (address : Text) (opcode : List Token) :
    let l := instruction address opcode ts
    '\n' ∉ printArgs l.operands l.comment ∧ ∃ args',
      Record.ReadsArgs (printArgs l.operands l.comment) args' ∧
        Args.tokens args' profile o = .ok ts := by
  cases args with
  | none =>
    cases h
    exact ⟨List.not_mem_nil, none, .absent, rfl⟩
  | some text =>
    rw [Args.tokens_some] at h
    obtain ⟨us, ho, rfl⟩ := Certain.map_eq_ok_iff.1 h
    have plain := Args.isComment_of_mem_operands ho
    dsimp only
    rw [operands_append plain, comment_append plain]
    rcases printArgs_cases (Args.isOperands_splitComment text)
        (fun c hc => Args.trim_of_splitComment hc) (Args.flatMap_source_of_operands ho) with
      ⟨rfl, hnone⟩ | ⟨s, hp, hs, hmem⟩
    · rw [hnone]
      exact ⟨List.not_mem_nil, none, .absent, rfl⟩
    · have oneLine : '\n' ∉ s := by
        intro hd
        have mem := fun d => hargs text rfl (Args.mem_of_mem_splitComment d)
        rcases hmem _ hd with hd | hd | hd | hd
        · exact mem (.inl hd)
        · exact mem (.inr hd)
        · exact absurd hd (by decide)
        · exact absurd hd (by decide)
      rw [hp]
      refine ⟨by simpa using oneLine, _, Record.readsArgs_cons (by decide) oneLine, ?_⟩
      rw [Args.tokens_some, Args.splitComment_trimLeft, hs, ho]
      rfl

/-- **A printed line is read back**, and it is a single line. -/
theorem ofRecord_print {s : Text} (hs : '\n' ∉ s) {profile : Option Profile} {o : Options}
    {l : Line} (h : ofRecord (Record.ofLine s) profile o = .ok l) :
    '\n' ∉ l.print ∧ ofRecord (Record.ofLine l.print) profile o = .ok l := by
  cases hr : Record.ofLine s with
  | unformatted text =>
    rw [hr] at h
    cases h
    rw [Record.ofLine_eq_unformatted hr]
    refine ⟨hs, ?_⟩
    rw [print, Token.source, hr]
    exact congrArg _ (congrArg _ (congrArg _ (Record.ofLine_eq_unformatted hr)))
  | instruction address opcode args =>
    have read := Record.ofLine_eq_instruction_iff.1 hr
    obtain ⟨haddress, hopcode, hargs⟩ := read.oneLine
    rw [hr, ofRecord] at h
    obtain ⟨ts, ht, rfl⟩ := Certain.map_eq_ok_iff.1 h
    obtain ⟨oneLine, args', tail, hts⟩ :=
      exists_readsArgs_printArgs ht hargs address (Opcode.tokens opcode profile)
    rw [print, Opcode.flatMap_source_tokens]
    refine ⟨by simp [haddress, hopcode, oneLine], ?_⟩
    rw [Record.ofLine_eq_instruction_iff.2 (read.respell tail), ofRecord, hts]
    rfl

end Line

namespace Document

/-- **A printed document is read back.**  A document made from any text is made
again from its own print, under the same profile and the same options. -/
theorem ofText_print {text : Text} {profile : Option Profile} {o : Options} {d : Document}
    (h : ofText text profile o = .ok d) : ofText d.print profile o = .ok d := by
  obtain ⟨ls, hls, rfl⟩ := Certain.map_eq_ok_iff.1 h
  have printed : ∀ l ∈ ls, '\n' ∉ l.print ∧
      Line.ofRecord (Record.ofLine l.print) profile o = .ok l := by
    intro l hl
    obtain ⟨r, hr, hrl⟩ := Line.exists_record_of_mem hls hl
    obtain ⟨s, hs, rfl⟩ := List.mem_map.1 hr
    exact Line.ofRecord_print (Text.not_mem_of_mem_lines hs) hrl
  have lines : Text.lines (ls.flatMap fun l => l.print ++ ['\r', '\n']) = ls.map Line.print := by
    have read := Text.lines_flatMap_crlf (List.forall_mem_map.2 fun l hl => (printed l hl).1)
    rwa [List.flatMap_map] at read
  have records :
      Line.ofRecords (Record.ofText (ofLines ls profile o).print) profile o = .ok ls := by
    rw [Line.ofRecords_eq_ok_iff, Record.ofText, print, ofLines, lines, List.map_map,
      List.forall₂_map_left_iff, List.forall₂_same]
    exact fun l hl => (printed l hl).2
  rw [ofText, records]
  rfl

/-- An opcode and a comment with semicolons in them, a label, an empty comment, a
carriage return before a line end, and no last line end. -/
theorem ofText_print_mov :
    ∃ d : Document,
      ofText "  0Af:\tmov;b  d0,$2a\x7bx\x7d ;  a;b \r\r\nplain\r\r\n10: nop ;\n-- $ff".toList none
        { upperDigits := true } = .ok d ∧
      d.print = ("0Af: mov;b d0,$2a\x7bx\x7d ; a;b\r\n" ++ "plain\r\r\n" ++ "10: nop ; \r\n" ++
        "-- $ff\r\n").toList ∧
      ofText d.print none { upperDigits := true } = .ok d := by
  have h : ofText
      "  0Af:\tmov;b  d0,$2a\x7bx\x7d ;  a;b \r\r\nplain\r\r\n10: nop ;\n-- $ff".toList none
      { upperDigits := true } = .ok
        { caption := none, archKey := none, commentGlyph := "//".toList, lines := [
          .instruction "0Af".toList [.plain "mov;b".toList] [.plain "d0,".toList,
            .symbol "x".toList "$2A".toList none "$2a\x7bx\x7d".toList, .comment "a;b".toList],
          .unformatted (.plain "plain\r".toList),
          .instruction "10".toList [.plain "nop".toList] [.comment []],
          .unformatted (.plain "-- $ff".toList)] } :=
    Certain.eq_ok_of_toOption (by decide +kernel)
  exact ⟨_, h, by decide +kernel, ofText_print h⟩

end Document
end AsmListing
