/-
# Lines of a document

The lines of a document are those of its records, each on its own
(`ofRecords_eq_ok_iff`): no line depends on another, and making a document fails
only where making one of its lines does.  The operands and the comment of an
instruction are what its args were made from (`operands_append`,
`comment_append`).
-/

import Mathlib.Data.List.Forall2
import AsmListing.Document
import AsmListing.Proofs.Args.Lossless

namespace AsmListing

/-- Lists that are mapped to the same list agree place by place. -/
theorem map_eq_map_iff_forall₂ {α β : Type} {f : α → β} {xs ys : List α} :
    xs.map f = ys.map f ↔ List.Forall₂ (fun x y => f x = f y) xs ys := by
  rw [← List.forall₂_eq_eq_eq, List.forall₂_map_left_iff, List.forall₂_map_right_iff]

namespace Line

open Architecture (Profile)

/-- **Records and lines belong together one by one.** -/
theorem ofRecords_eq_ok_iff {records : List Record} {profile : Option Profile} {o : Options}
    {ls : List Line} : ofRecords records profile o = .ok ls ↔
      List.Forall₂ (fun r l => ofRecord r profile o = .ok l) records ls := by
  induction records generalizing ls with
  | nil =>
    rw [ofRecords, List.forall₂_nil_left_iff, Except.ok.injEq]
    exact eq_comm
  | cons r rs ih =>
    rw [List.forall₂_cons_left_iff, ofRecords]
    constructor
    · intro h
      obtain ⟨l, hl, h⟩ := Certain.bind_eq_ok_iff.1 h
      obtain ⟨ls', hls, h⟩ := Certain.bind_eq_ok_iff.1 h
      cases h
      exact ⟨l, ls', hl, ih.1 hls, rfl⟩
    · rintro ⟨l, ls', hl, hls, rfl⟩
      rw [hl, ih.2 hls]
      rfl

/-- Each line is made from some record. -/
theorem exists_record_of_mem {records : List Record} {profile : Option Profile} {o : Options}
    {ls : List Line} (h : ofRecords records profile o = .ok ls) {l : Line} (hl : l ∈ ls) :
    ∃ r ∈ records, ofRecord r profile o = .ok l := by
  have paired := ofRecords_eq_ok_iff.1 h
  clear h
  induction paired with
  | nil => cases hl
  | cons hr _ ih =>
    rcases List.mem_cons.1 hl with rfl | hl
    · exact ⟨_, List.mem_cons_self .., hr⟩
    · obtain ⟨r, hr, hrl⟩ := ih hl
      exact ⟨r, List.mem_cons_of_mem _ hr, hrl⟩

section parts

variable {ts : List Token} (hts : ∀ t ∈ ts, t.isComment = false) (address : Text)
  (opcode : List Token) (comment : Option Text)
include hts

/-- The comment is the one behind the operands. -/
theorem comment_append :
    (instruction address opcode (ts ++ (comment.map Token.comment).toList)).comment =
      comment.map Token.comment := by
  cases comment with
  | some c => simp [Line.comment, Token.isComment]
  | none =>
    have last : ts.getLast?.filter Token.isComment = none := by
      rw [Option.filter_eq_none_iff]
      intro t ht
      simp [hts t (List.mem_of_getLast? ht)]
    simpa [Line.comment] using last

/-- The operands are what stands before the comment. -/
theorem operands_append :
    (instruction address opcode (ts ++ (comment.map Token.comment).toList)).operands = ts := by
  cases comment with
  | some c => simp [operands, Token.isComment]
  | none =>
    have last : ts.getLast?.any Token.isComment = false := by
      rw [Option.any_eq_false]
      intro t ht
      simp [hts t (List.mem_of_getLast? ht)]
    simp [operands, last]

end parts

end Line
end AsmListing
