/-
# The grammar of instructions

`Reads line address opcode args` says how a line spells an instruction: which
runs of characters follow each other in it.  The scan of a line takes each run as
far as it goes, and no run can go further than the grammar lets it, since the
character behind it is of another kind.  So a line is taken for an instruction
exactly when it spells that instruction (`ofLine_eq_instruction_iff`).
-/

import Mathlib.Data.List.TakeWhile
import AsmListing.Record
import AsmListing.Proofs.Text.Trimming

namespace AsmListing

theorem isBlank_of_isHexDigit {c : Char} (h : isHexDigit c = true) : isBlank c = false := by
  have hexRange : (48 ≤ c.toNat ∧ c.toNat ≤ 57) ∨ (97 ≤ c.toNat ∧ c.toNat ≤ 102) ∨
      (65 ≤ c.toNat ∧ c.toNat ≤ 70) := by
    simpa [isHexDigit, Char.isDigit, Char.le_def, UInt32.le_iff_toNat_le, or_assoc] using h
  simp only [isBlank, Bool.or_eq_false_iff, Bool.and_eq_false_iff, decide_eq_false_iff_not]
  omega

namespace Text

/-- A run of characters of one kind is taken whole, and no more, when a character
of another kind or nothing follows it. -/
theorem takeWhile_append_run {p : Char → Bool} {run s : Text} (hr : ∀ c ∈ run, p c = true)
    (hs : ∀ c ∈ s.head?, p c = false) :
    (run ++ s).takeWhile p = run ∧ (run ++ s).dropWhile p = s := by
  rw [List.takeWhile_append_of_pos hr, List.dropWhile_append_of_pos hr]
  cases s with
  | nil => simp
  | cons c s => simp [hs c rfl]

/-- The leading blanks and what follows them make up a text. -/
theorem append_trimLeft (s : Text) : s.takeWhile isBlank ++ trimLeft s = s :=
  List.takeWhile_append_dropWhile

/-- Blanks in front are dropped. -/
theorem trimLeft_append {w s : Text} (hw : ∀ c ∈ w, isBlank c = true)
    (hs : ∀ c ∈ s.head?, isBlank c = false) : trimLeft (w ++ s) = s :=
  (takeWhile_append_run hw hs).2

end Text

namespace Record

/-- How the text behind an opcode spells the args: it is empty, or blanks stand
in front of them. -/
inductive ReadsArgs : Text → Option Text → Prop where
  | absent : ReadsArgs [] none
  | present {w args : Text} (blanks : ∀ c ∈ w, isBlank c = true) (nonempty : w ≠ [])
      (trimmed : ∀ c ∈ args.head?, isBlank c = false) (oneLine : '\n' ∉ args) :
      ReadsArgs (w ++ args) (some args)

/-- How the text behind the colon spells the opcode and the args. -/
inductive ReadsOpcode : Text → Text → Option Text → Prop where
  | intro {w opcode tail : Text} {args : Option Text} (blanks : ∀ c ∈ w, isBlank c = true)
      (nonempty : w ≠ []) (unbroken : ∀ c ∈ opcode, isBlank c = false) (named : opcode ≠ [])
      (rest : ReadsArgs tail args) : ReadsOpcode (w ++ (opcode ++ tail)) opcode args

/-- How a line spells an instruction. -/
inductive Reads : Text → Text → Text → Option Text → Prop where
  | intro {w address rest opcode : Text} {args : Option Text} (blanks : ∀ c ∈ w, isBlank c = true)
      (digits : ∀ c ∈ address, isHexDigit c = true) (nonempty : address ≠ [])
      (behind : ReadsOpcode rest opcode args) :
      Reads (w ++ (address ++ ':' :: rest)) address opcode args

/-- A blank stands behind an opcode, or nothing. -/
theorem ReadsArgs.isBlank_of_mem_head? {tail : Text} {args : Option Text}
    (h : ReadsArgs tail args) {c : Char} (hc : c ∈ tail.head?) : isBlank c = true := by
  cases h with
  | absent => cases hc
  | @present w args blanks nonempty =>
    obtain ⟨d, w, rfl⟩ := List.exists_cons_of_ne_nil nonempty
    cases hc
    exact blanks _ (List.mem_cons_self ..)

/-- Behind an opcode the args are scanned as they are spelled. -/
theorem args?_eq_some_iff {tail : Text} {args : Option Text}
    (ht : ∀ c ∈ tail.head?, isBlank c = true) :
    args? tail = some args ↔ ReadsArgs tail args := by
  constructor
  · intro h
    cases tail with
    | nil => cases h; exact .absent
    | cons c s =>
      rw [args?, if_neg (by simp)] at h
      dsimp only at h
      split at h
      · cases h
      · next oneLine =>
        cases h
        have blanks : ∀ d ∈ (c :: s).takeWhile isBlank, isBlank d = true :=
          fun d hd => List.mem_takeWhile_imp hd
        have nonempty : (c :: s).takeWhile isBlank ≠ [] := by simp [ht c rfl]
        have trimmed : ∀ d ∈ (Text.trimLeft (c :: s)).head?, isBlank d = false :=
          fun d hd => Text.isBlank_of_mem_head?_trimLeft hd
        simpa only [Text.append_trimLeft] using ReadsArgs.present blanks nonempty trimmed oneLine
  · rintro (_ | ⟨blanks, nonempty, trimmed, oneLine⟩)
    · rfl
    · rw [args?, Text.trimLeft_append blanks trimmed]
      simp [nonempty, oneLine]

/-- One blank in front of a text in one line spells args. -/
theorem readsArgs_cons {c : Char} (hc : isBlank c = true) {s : Text} (hs : '\n' ∉ s) :
    ReadsArgs (c :: s) (some (Text.trimLeft s)) := by
  refine (args?_eq_some_iff (by simpa using hc)).1 ?_
  have hleft : Text.trimLeft (c :: s) = Text.trimLeft s := List.dropWhile_cons_of_pos hc
  have oneLine : '\n' ∉ Text.trimLeft s := fun h => hs ((Text.trimLeft_isSuffix s).subset h)
  simp [args?, hleft, oneLine]

/-- Behind the colon the opcode and the args are scanned as they are spelled. -/
theorem opcode?_eq_some_iff {rest opcode : Text} {args : Option Text} :
    opcode? rest = some (opcode, args) ↔ ReadsOpcode rest opcode args := by
  have notBlank : ∀ c, (!isBlank c) = false ↔ isBlank c = true := by simp
  constructor
  · intro h
    simp only [opcode?] at h
    split at h
    · cases h
    · next hc =>
      obtain ⟨args', ha, e⟩ := Option.map_eq_some_iff.1 h
      cases e
      obtain ⟨named, hb⟩ : (Text.trimLeft rest).takeWhile (fun c => !isBlank c) ≠ [] ∧
          rest.head?.any isBlank = true := by simpa using hc
      have ht : ∀ c ∈ ((Text.trimLeft rest).dropWhile fun c => !isBlank c).head?,
          isBlank c = true := by
        intro c hd
        have hn := List.head?_dropWhile_not (fun c => !isBlank c) (Text.trimLeft rest)
        rw [Option.mem_def.1 hd] at hn
        exact (notBlank c).1 hn
      have tail := (args?_eq_some_iff ht).1 ha
      have nonempty : rest.takeWhile isBlank ≠ [] := by
        cases rest with
        | nil => cases hb
        | cons c s => simp [show isBlank c = true by simpa using hb]
      have unbroken : ∀ c ∈ (Text.trimLeft rest).takeWhile (fun c => !isBlank c),
          isBlank c = false := fun c hc => by simpa using List.mem_takeWhile_imp hc
      simpa only [List.takeWhile_append_dropWhile, Text.append_trimLeft] using
        ReadsOpcode.intro (fun c hc => List.mem_takeWhile_imp hc) nonempty unbroken named tail
  · rintro ⟨blanks, nonempty, unbroken, named, tail⟩
    rename_i w tail'
    obtain ⟨d, s, rfl⟩ := List.exists_cons_of_ne_nil named
    have hleft : Text.trimLeft (w ++ (d :: s ++ tail')) = d :: s ++ tail' :=
      Text.trimLeft_append blanks (by simpa using unbroken d (List.mem_cons_self ..))
    obtain ⟨htake, hdrop⟩ : (d :: s ++ tail').takeWhile (fun c => !isBlank c) = d :: s ∧
        (d :: s ++ tail').dropWhile (fun c => !isBlank c) = tail' :=
      Text.takeWhile_append_run (fun c hc => by simp [unbroken c hc])
        fun c hc => (notBlank c).2 (tail.isBlank_of_mem_head? hc)
    obtain ⟨b, w, rfl⟩ := List.exists_cons_of_ne_nil nonempty
    have hb : isBlank b = true := blanks b (List.mem_cons_self ..)
    simp only [opcode?, hleft, htake, hdrop]
    simp [hb, (args?_eq_some_iff fun c hc => tail.isBlank_of_mem_head? hc).2 tail]

/-- A line is scanned as it is spelled. -/
theorem instruction?_eq_some_iff {line : Text} {record : Record} :
    instruction? line = some record ↔
      ∃ address opcode args, record = instruction address opcode args ∧
        Reads line address opcode args := by
  constructor
  · intro h
    simp only [instruction?] at h
    split at h
    · next rest hd =>
      split at h
      · cases h
      · next hn =>
        obtain ⟨⟨opcode, args⟩, ho, rfl⟩ := Option.map_eq_some_iff.1 h
        refine ⟨_, _, _, rfl, ?_⟩
        have nonempty : (Text.trimLeft line).takeWhile isHexDigit ≠ [] := by simpa using hn
        have read := Reads.intro (w := line.takeWhile isBlank)
          (fun c hc => List.mem_takeWhile_imp hc) (fun c hc => List.mem_takeWhile_imp hc)
          nonempty (opcode?_eq_some_iff.1 ho)
        rwa [← hd, List.takeWhile_append_dropWhile, Text.append_trimLeft] at read
    · cases h
  · rintro ⟨address, opcode, args, rfl, blanks, digits, nonempty, behind⟩
    rename_i w rest
    obtain ⟨htake, hdrop⟩ := Text.takeWhile_append_run (s := ':' :: rest) digits
      (by simp [isHexDigit])
    have hleft : Text.trimLeft (w ++ (address ++ ':' :: rest)) = address ++ ':' :: rest := by
      refine Text.trimLeft_append blanks fun c hc => ?_
      obtain ⟨d, s, rfl⟩ := List.exists_cons_of_ne_nil nonempty
      cases hc
      exact isBlank_of_isHexDigit (digits _ (List.mem_cons_self ..))
    simp only [instruction?, hleft, htake, hdrop, opcode?_eq_some_iff.2 behind]
    simp [nonempty]

/-- **A line is an instruction exactly when it spells it.** -/
theorem ofLine_eq_instruction_iff {line address opcode : Text} {args : Option Text} :
    ofLine line = instruction address opcode args ↔ Reads line address opcode args := by
  constructor
  · intro h
    rw [ofLine] at h
    cases hi : instruction? line with
    | none => rw [hi] at h; cases h
    | some record =>
      rw [hi, Option.getD_some] at h
      subst h
      obtain ⟨_, _, _, ⟨⟩, read⟩ := instruction?_eq_some_iff.1 hi
      exact read
  · intro read
    rw [ofLine, instruction?_eq_some_iff.2 ⟨_, _, _, rfl, read⟩, Option.getD_some]

/-- A line that is no instruction is kept as it is. -/
theorem ofLine_eq_unformatted {line text : Text} (h : ofLine line = unformatted text) :
    text = line := by
  rw [ofLine] at h
  cases hi : instruction? line with
  | none => rw [hi] at h; cases h; rfl
  | some record =>
    obtain ⟨_, _, _, rfl, -⟩ := instruction?_eq_some_iff.1 hi
    rw [hi] at h
    cases h

/-- What a line spells is each on one line. -/
theorem Reads.oneLine {line address opcode : Text} {args : Option Text}
    (h : Reads line address opcode args) :
    '\n' ∉ address ∧ '\n' ∉ opcode ∧ ∀ s ∈ args, '\n' ∉ s := by
  obtain ⟨-, digits, -, -, -, unbroken, -, rest⟩ := h
  refine ⟨fun hc => absurd (digits _ hc) (by decide), fun hc => absurd (unbroken _ hc) (by decide),
    fun s hs => ?_⟩
  cases rest with
  | absent => cases hs
  | present _ _ _ oneLine => cases hs; exact oneLine

/-- An instruction that some line spells is also spelled with one blank behind the
colon and none in front of the address, whatever args follow. -/
theorem Reads.respell {line address opcode tail : Text} {args args' : Option Text}
    (h : Reads line address opcode args) (ht : ReadsArgs tail args') :
    Reads (address ++ ": ".toList ++ opcode ++ tail) address opcode args' := by
  obtain ⟨-, digits, nonempty, -, -, unbroken, named, -⟩ := h
  have blank : ∀ c ∈ [' '], isBlank c = true := List.forall_mem_singleton.2 (by decide)
  have behind : ReadsOpcode ([' '] ++ (opcode ++ tail)) opcode args' :=
    .intro blank (List.cons_ne_nil _ _) unbroken named ht
  have read := Reads.intro (w := []) (List.forall_mem_nil _) digits nonempty behind
  simpa using read

end Record
end AsmListing
