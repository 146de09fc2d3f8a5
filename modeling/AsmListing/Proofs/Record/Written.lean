/-
# Written grammars

Instructions and sizes of opcodes are described by two patterns:

| what | written |
| --- | --- |
| an instruction | `^\s*(?P<address>[0-9a-fA-F]+):\s+(?P<opcode>\S+)(?:\s+(?P<args>.*))?$` |
| a size suffix | `\.[qlwb]$` |

The scan of a line (`Record.instruction?`) and that of an opcode (`Opcode.splitSize`) do
without a search.  They find what the search for these patterns finds
(`Record.ofLine_match`, `Opcode.splitSize_eq_find?`).  The parts of a line that repeat take
the whole run ahead, as they do in the scan: behind a shorter one the next part cannot
start.  Only the blanks in front of the args could be fewer, and then as many of them as
possible are taken.
-/

import AsmListing.Proofs.Literal.Scanning
import AsmListing.Proofs.Record.Grammar

namespace AsmListing

open Pattern

namespace Record

/-- The pattern of instructions, as it is written. -/
def written : Text :=
  "^\\s*(?P<address>[0-9a-fA-F]+):\\s+(?P<opcode>\\S+)(?:\\s+(?P<args>.*))?$".toList

namespace GroupName

def address : Text := "address".toList

def opcode : Text := "opcode".toList

def args : Text := "args".toList

end GroupName

/-- The digits of an address. -/
def addressSet : CharSet :=
  .union (.union (.union .none (.range '0' '9')) (.range 'a' 'f')) (.range 'A' 'F')

/-- The address. -/
def addressPart : Pattern :=
  .group GroupName.address (.plus (.one addressSet) true)

/-- The blanks in front of an opcode or of args. -/
def gapPart : Pattern :=
  .plus (.one .blank) true

/-- The opcode. -/
def opcodePart : Pattern :=
  .group GroupName.opcode (.plus (.one (.compl .blank)) true)

/-- The args, with the blanks in front of them. -/
def argsPart : Pattern :=
  .optional (.seq gapPart (.group GroupName.args (.star (.one .dot) true))) true

/-- The pattern of instructions. -/
def pattern : Pattern :=
  Pattern.sequence [.atStart, .star (.one .blank) true, addressPart, .one (.single ':'), gapPart,
    opcodePart, argsPart, .atEnd]

theorem compile_written : Pattern.engine.compile written = .ok pattern :=
  Certain.eq_ok_of_toOption (by decide +kernel)

theorem has_addressSet : addressSet.has = isHexDigit :=
  funext (CharSet.has_eq_of_ascii (by decide) (by decide +kernel) fun _ => isHexDigit_wide)

theorem has_dot (c : Char) : CharSet.dot.has c = decide (c ≠ '\n') := by
  rw [CharSet.dot, CharSet.has, CharSet.has_single_of_isUncased (by decide +kernel), decide_not]

theorem has_unblank (c : Char) : (CharSet.compl .blank).has c = !isBlank c := by
  rw [CharSet.has, CharSet.has_blank]

/-- The texts that the groups of a line hold. -/
def fields (t : Trail) : Option Text × Option Text × Option Text :=
  (t.group? GroupName.address, t.group? GroupName.opcode, t.group? GroupName.args)

theorem fields_char (c : Char) (t : Option Trail) :
    (t.map (Mark.char c :: ·)).map fields = t.map fields := by
  rw [Option.map_map]
  rfl

theorem fields_ofText (s : Text) (t : Trail) : fields (Trail.ofText s ++ t) = fields t := by
  have outside : ∀ name, Mark.enter name ∉ Trail.ofText s :=
    fun name => Trail.not_mem_ofText (by simp) s
  simp only [fields, Trail.group?_append (outside _)]

/-- Behind blanks and an address. -/
theorem fields_address (w s : Text) (t : Option Trail) :
    ((t.map (Trail.within GroupName.address s ++ ·)).map (Trail.ofText w ++ ·)).map fields =
      (t.map fields).map fun f => (f.1.or (some s), f.2) := by
  rw [Option.map_map, Option.map_map, Option.map_map]
  congr 1
  funext t
  rw [Function.comp, Function.comp, fields_ofText, fields, Trail.group?_within,
    Trail.group?_within_of_ne (by decide), Trail.group?_within_of_ne (by decide)]
  rfl

/-- Behind blanks and an opcode. -/
theorem fields_opcode (w s : Text) (t : Option Trail) :
    ((t.map (Trail.within GroupName.opcode s ++ ·)).map (Trail.ofText w ++ ·)).map fields =
      (t.map fields).map fun f => (f.1, f.2.1.or (some s), f.2.2) := by
  rw [Option.map_map, Option.map_map, Option.map_map]
  congr 1
  funext t
  rw [Function.comp, Function.comp, fields_ofText, fields, Trail.group?_within_of_ne (by decide),
    Trail.group?_within, Trail.group?_within_of_ne (by decide)]
  rfl

theorem fields_args (s : Text) : fields (Trail.within GroupName.args s) = (none, none, some s) := by
  rw [← List.append_nil (Trail.within GroupName.args s), fields,
    Trail.group?_within_of_ne (by decide), Trail.group?_within_of_ne (by decide),
    Trail.group?_within]
  rfl

/-- Through some parts to the end of a match. -/
def onward (parts : List Pattern) : Onward := fun b s =>
  (Pattern.sequence parts).through b s accept

theorem onward_cons (p : Pattern) (parts : List Pattern) (b : Bool) (s : Text) :
    onward (p :: parts) b s = p.through b s (onward parts) :=
  through_sequence_cons ..

theorem onward_end_cons (b : Bool) (c : Char) (s : Text) : onward [.atEnd] b (c :: s) = none :=
  rfl

/-- **The args are all that is left,** if it has no line feed. -/
theorem through_allArgs (b : Bool) (s : Text) :
    (group GroupName.args (.star (.one .dot) true)).through b s (onward [.atEnd]) =
      if '\n' ∈ s then none else some (Trail.within GroupName.args s) := by
  rw [through_group, through_anyRun (.stuck fun _ _ _ _ => rfl), funext has_dot]
  by_cases broken : '\n' ∈ s
  · rw [if_pos broken]
    cases hd : s.dropWhile fun c => decide (c ≠ '\n') with
    | nil =>
      have unbroken := List.dropWhile_eq_nil_iff.1 hd _ broken
      exact absurd rfl (of_decide_eq_true unbroken)
    | cons c r => rfl
  · have all : ∀ c ∈ s, decide (c ≠ '\n') = true := by
      rintro c hc
      rw [decide_eq_true_eq]
      rintro rfl
      exact broken hc
    rw [if_neg broken, List.dropWhile_eq_nil_iff.2 all, List.takeWhile_eq_self_iff.2 all]
    rfl

/-- **Behind an opcode the args are taken as they are scanned,** and nothing can be taken
where the opcode could go on. -/
theorem onward_args (b : Bool) (tail : Text) : (onward [argsPart, .atEnd] b tail).map fields =
    if tail.head?.all isBlank then (args? tail).map fun args => (none, none, args) else none := by
  rw [onward_cons, argsPart, through_optional, through_seq, gapPart]
  simp only [through_allArgs]
  cases tail with
  | nil => rfl
  | cons c s =>
    have left : (c :: s).dropWhile CharSet.blank.has = Text.trimLeft (c :: s) := by
      rw [funext CharSet.has_blank]
      rfl
    have settled : Settled .blank
        (fun _ r => if '\n' ∈ r then none else some (Trail.within GroupName.args r)) (c :: s) := by
      by_cases broken : '\n' ∈ Text.trimLeft (c :: s)
      · -- the line feed is left wherever the blanks end
        refine .inr fun b d r _ same => if_pos ?_
        rw [left] at same
        rw [← same] at broken
        exact (List.dropWhile_suffix _).subset broken
      · refine .goes ?_
        rw [left, if_neg broken]
        rfl
    rw [onward_end_cons, Option.or_none, through_run settled, left, funext CharSet.has_blank,
      List.head?_cons, Option.all_some]
    by_cases blank : isBlank c = true
    · have scanned : args? (c :: s) = if '\n' ∈ Text.trimLeft (c :: s) then none
          else some (some (Text.trimLeft (c :: s))) := rfl
      rw [List.takeWhile_cons_of_pos blank, if_neg (List.cons_ne_nil _ _), if_pos blank, scanned]
      split
      · rfl
      · rw [Option.map_some, Option.map_some, fields_ofText, fields_args]
        rfl
    · rw [List.takeWhile_cons_of_neg blank, if_pos rfl, if_neg blank]
      rfl

/-- **Behind the colon the opcode and the args are taken as they are scanned.** -/
theorem onward_opcode (b : Bool) (rest : Text) :
    (onward [gapPart, opcodePart, argsPart, .atEnd] b rest).map fields =
      (opcode? rest).map fun (opcode, args) => (none, some opcode, args) := by
  have blanks : ∀ b c r, CharSet.blank.has c = true →
      onward [opcodePart, argsPart, .atEnd] b (c :: r) = none := by
    intro b c r hc
    rw [onward_cons, opcodePart, through_group, through_plus rfl, through_one, CharSet.has, hc]
    rfl
  have letters : ∀ b c r, (CharSet.compl .blank).has c = true →
      onward [argsPart, .atEnd] b (c :: r) = none := by
    intro b c r hc
    rw [has_unblank, Bool.not_eq_true'] at hc
    have scanned := onward_args b (c :: r)
    rw [List.head?_cons, Option.all_some, hc, if_neg Bool.false_ne_true] at scanned
    exact Option.map_eq_none_iff.1 scanned
  rw [onward_cons, gapPart, through_run (.stuck blanks), funext CharSet.has_blank, onward_cons,
    opcodePart, through_group_run (.stuck letters), funext has_unblank, opcode?, Text.trimLeft]
  dsimp only
  cases rest with
  | nil => rfl
  | cons c s =>
    by_cases blank : isBlank c = true
    · rw [List.takeWhile_cons_of_pos blank, if_neg (List.cons_ne_nil _ _), List.head?_cons,
        Option.any_some, blank, Bool.not_true, Bool.or_false]
      generalize (c :: s).dropWhile isBlank = body
      by_cases unnamed : body.takeWhile (fun c => !isBlank c) = []
      · rw [if_pos unnamed, unnamed]
        rfl
      · have behind : (body.dropWhile fun c => !isBlank c).head?.all isBlank = true := by
          have stops := List.head?_dropWhile_not (fun c => !isBlank c) body
          cases hd : (body.dropWhile fun c => !isBlank c).head? with
          | none => rfl
          | some d => simpa [hd] using stops
        rw [if_neg unnamed, if_neg (by simpa using unnamed), fields_opcode, onward_args,
          if_pos behind, Option.map_map, Option.map_map]
        rfl
    · rw [List.takeWhile_cons_of_neg blank, if_pos rfl, List.head?_cons, Option.any_some,
        if_pos (by simp [blank])]
      rfl

/-- What an instruction says, field by field. -/
def parts : Record → Option Text × Option Text × Option Text
  | instruction address opcode args => (some address, some opcode, args)
  | unformatted _ => (none, none, none)

/-- **A line is taken as it is scanned.** -/
theorem onward_line (line : Text) :
    (onward [.star (.one .blank) true, addressPart, .one (.single ':'), gapPart, opcodePart,
      argsPart, .atEnd] true line).map fields = (instruction? line).map parts := by
  have blanks : ∀ b c r, CharSet.blank.has c = true →
      onward [addressPart, .one (.single ':'), gapPart, opcodePart, argsPart, .atEnd] b (c :: r) =
        none := by
    intro b c r hc
    rw [CharSet.has_blank] at hc
    have digitless : addressSet.has c = false := by
      rw [has_addressSet]
      exact Bool.eq_false_iff.2 fun digit =>
        absurd hc (Bool.eq_false_iff.1 (isBlank_of_isHexDigit digit))
    rw [onward_cons, addressPart, through_group, through_plus rfl, through_one, digitless]
    rfl
  have colon : ∀ b c r,
      onward [.one (.single ':'), gapPart, opcodePart, argsPart, .atEnd] b (c :: r) =
        if c = ':' then (onward [gapPart, opcodePart, argsPart, .atEnd] false r).map
          (Mark.char c :: ·)
        else none := by
    intro b c r
    rw [onward_cons, through_one, CharSet.has_single_of_isUncased (by decide +kernel)]
    simp only [decide_eq_true_eq]
  have digits : ∀ b c r, addressSet.has c = true →
      onward [.one (.single ':'), gapPart, opcodePart, argsPart, .atEnd] b (c :: r) = none := by
    intro b c r hc
    rw [has_addressSet] at hc
    rw [colon, if_neg]
    rintro rfl
    cases hc
  rw [onward_cons, through_anyRun (.stuck blanks), funext CharSet.has_blank, onward_cons,
    addressPart, through_group_run (.stuck digits), has_addressSet, instruction?, Text.trimLeft]
  dsimp only
  generalize line.dropWhile isBlank = body
  by_cases numberless : body.takeWhile isHexDigit = []
  · rw [if_pos numberless, numberless]
    split <;> rfl
  · have numbered : (body.takeWhile isHexDigit).isEmpty ≠ true := by simpa using numberless
    rw [if_neg numberless, fields_address]
    cases body.dropWhile isHexDigit with
    | nil => rfl
    | cons c rest =>
      rw [colon]
      by_cases hc : c = ':'
      · subst hc
        rw [if_pos rfl, fields_char, onward_opcode]
        simp only [if_neg numbered, Option.map_map]
        rfl
      · rw [if_neg hc]
        split
        · next h => exact absurd (List.cons.inj h).1 hc
        · rfl

/-- **A line is an instruction where the pattern has a match in it,** with what the groups
of the match hold. -/
theorem ofLine_match (line : Text) :
    match pattern.find? line with
    | none => ofLine line = unformatted line
    | some hit => ∃ address opcode, hit.group? GroupName.address = some address ∧
        hit.group? GroupName.opcode = some opcode ∧
        ofLine line = instruction address opcode (hit.group? GroupName.args) := by
  have scanned := onward_line line
  rw [onward] at scanned
  rw [pattern, find?_anchored, ofLine]
  generalize (Pattern.sequence _).through true line accept = found at scanned ⊢
  cases found with
  | none =>
    rw [Option.map_eq_none_iff.1 scanned.symm]
    rfl
  | some t =>
    obtain ⟨record, found, same⟩ := Option.map_eq_some_iff.1 scanned.symm
    obtain ⟨address, opcode, args, rfl, -⟩ := instruction?_eq_some_iff.1 found
    obtain ⟨address_eq, opcode_eq, args_eq⟩ : some address = t.group? GroupName.address ∧
        some opcode = t.group? GroupName.opcode ∧ args = t.group? GroupName.args := by
      simpa [parts, fields] using same
    refine ⟨address, opcode, address_eq.symm, opcode_eq.symm, ?_⟩
    rw [found, args_eq]
    rfl

end Record

namespace Opcode

open Architecture (sizeSet has_sizeSet)

/-- The pattern of size suffixes, as it is written. -/
def written : Text :=
  "(?i)\\.[qlwb]$".toList

/-- The pattern of size suffixes. -/
def pattern : Pattern :=
  Pattern.sequence [.one (.single '.'), .one sizeSet, .atEnd]

theorem compile_written : Pattern.engine.compile written = .ok pattern :=
  Certain.eq_ok_of_toOption (by decide +kernel)

/-- There is a way from where a point and a letter are all that is left. -/
theorem through_pattern (b : Bool) (c d : Char) (s : Text) :
    pattern.through b (c :: d :: s) accept =
      if c = '.' ∧ isSizeLetter d = true ∧ s = [] then some [.char c, .char d] else none := by
  have point : (CharSet.single '.').has c = decide (c = '.') :=
    CharSet.has_single_of_isUncased (by decide +kernel) c
  rw [pattern, through_sequence_cons, through_one, through_sequence_cons, through_one, point,
    has_sizeSet]
  by_cases hc : c = '.'
  · by_cases hd : isSizeLetter d = true
    · cases s with
      | nil => simp [hc, hd, Pattern.sequence, through_atEnd, accept]
      | cons e s => simp [hc, hd, Pattern.sequence, through_atEnd]
    · simp [hc, hd]
  · simp [hc]

theorem through_pattern_single (b : Bool) (c : Char) : pattern.through b [c] accept = none := by
  rw [pattern, through_sequence_cons, through_one]
  split <;> rfl

theorem splitSize_eq_findFrom (b : Bool) (s : Text) :
    splitSize s = (pattern.findFrom b s).map fun hit => (hit.before, hit.taken) := by
  fun_induction splitSize s generalizing b with
  | case1 => rfl
  | case2 c hc =>
    rw [findFrom_cons, through_pattern, if_pos ⟨rfl, hc, rfl⟩]
    rfl
  | case3 c hc =>
    rw [findFrom_cons, through_pattern, if_neg fun h => hc h.2.1, findFrom_cons,
      through_pattern_single]
    rfl
  | case4 c s other ih =>
    have elsewhere : pattern.through b (c :: s) accept = none := by
      cases s with
      | nil => exact through_pattern_single b c
      | cons d s =>
        rw [through_pattern, if_neg]
        rintro ⟨rfl, -, rfl⟩
        exact other d rfl rfl
    rw [findFrom_cons, elsewhere, ih false, Option.map_map, Option.map_map]
    rfl

/-- **The size suffix of an opcode is the match of the pattern in it.** -/
theorem splitSize_eq_find? (s : Text) :
    splitSize s = (pattern.find? s).map fun hit => (hit.before, hit.taken) :=
  splitSize_eq_findFrom true s

end Opcode
end AsmListing
