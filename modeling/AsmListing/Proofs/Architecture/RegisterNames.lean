/-
# The names of the registers

The registers of an architecture are written as a pattern, which stands for a list of names
(`names?_registers`).  The list is given here name by name, in the order of preference.

Of two names that stand at one place the earlier one is taken.  So a name is hidden by a
shorter one that it starts with and that is listed before it.  Only in one list are there
such names: `e` hides `eix` and `eiy` (`hidden_definitions`).
-/

import AsmListing.Proofs.Architecture.Places
import AsmListing.Proofs.Pattern.Names

namespace AsmListing
namespace Architecture

/-- The register names of the architecture with a key, the preferred ones first. -/
def registerNames (key : Text) : List Text :=
  (if key = "m68k".toList then
    ["pc", "sr", "ccr", "usp", "ssp", "sp", "d0", "d1", "d2", "d3", "d4", "d5", "d6", "d7",
     "a0", "a1", "a2", "a3", "a4", "a5", "a6", "a7"]
  else if key = "sh2".toList then
    ["pc", "sr", "gbr", "r10", "r11", "r12", "r13", "r14", "r15", "r0", "r1", "r2", "r3", "r4",
     "r5", "r6", "r7", "r8", "r9"]
  else if key = "z80".toList then
    ["pc", "sp", "af'", "af", "a", "f", "bc'", "bc", "b", "c", "de'", "de", "d", "e", "hl'",
     "hl", "h", "l", "eix", "eiy", "i", "r"]
  else if key = "6502".toList then
    ["pc", "sp", "a", "x", "y", "p"]
  else if key = "i960".toList then
    ["pc", "sp", "r10", "r11", "r12", "r13", "r14", "r15", "r0", "r1", "r2", "r3", "r4", "r5",
     "r6", "r7", "r8", "r9", "g10", "g11", "g12", "g13", "g14", "g15", "g0", "g1", "g2", "g3",
     "g4", "g5", "g6", "g7", "g8", "g9"]
  else if key = "h8".toList then
    ["pc", "ccr", "r0h", "r0l", "r1h", "r1l", "r2h", "r2l", "r3h", "r3l", "r4h", "r4l", "r5h",
     "r5l", "r6h", "r6l", "r7h", "r7l", "r0", "r1", "r2", "r3", "r4", "r5", "r6", "r7"]
  else if key = "8086".toList then
    ["pc", "ax", "ah", "al", "cx", "ch", "cl", "dx", "dh", "dl", "bx", "bh", "bl", "sp", "bp",
     "si", "di", "cs", "ds", "ss", "es"]
  else if key = "x86".toList then
    ["pc", "eax", "ecx", "edx", "ebx", "ax", "ah", "al", "cx", "ch", "cl", "dx", "dh", "dl",
     "bx", "bh", "bl", "esp", "ebp", "sp", "bp", "esi", "edi", "si", "di", "cs", "ds", "ss",
     "es", "fs", "gs", "dr0", "dr1", "dr2", "dr3", "dr4", "dr5", "dr6", "dr7", "cr0", "cr1",
     "cr2", "cr3", "cr4", "cr5", "cr6", "cr7", "tr3", "tr4", "tr5", "tr6", "tr7"]
  else
    ["pc", "r10", "r11", "r12", "r13", "r14", "r15", "r0", "r1", "r2", "r3", "r4", "r5", "r6",
     "r7", "r8", "r9"]).map String.toList

/-- The registers of the definitions that are always known, read one by one. -/
theorem names?_definitions : definitions.all (fun d =>
    ((Pattern.ofText (registerPattern d.registers)).toOption.bind Pattern.names?) =
      some (registerNames d.key)) = true := by
  decide +kernel

/-- **The registers of an architecture that is always known stand for its names.** -/
theorem names?_registers {p : Profile} (hp : p ∈ builtin.profiles) :
    p.registers.names? = some (registerNames p.key) := by
  obtain ⟨hd, compiled⟩ := compile_of_mem_builtin hp
  have known := List.all_eq_true.1 names?_definitions _ hd
  obtain ⟨-, -, read, -⟩ := Definition.eq_of_compileBy compiled
  rw [decide_eq_true_eq, ← Definition.engine_compile_registers, read] at known
  exact known

/-- The names that a shorter one hides, in all lists. -/
theorem hidden_definitions : definitions.all (fun d =>
    Pattern.hidden (registerNames d.key) =
      if d.key = "z80".toList then
        [("e".toList, "eix".toList), ("e".toList, "eiy".toList)]
      else []) = true := by
  decide +kernel

/-- The names that are hidden. -/
def hiddenNames : List Text :=
  ["eix".toList, "eiy".toList]

/-- In front of a hidden name `e` is read. -/
theorem nameAt?_of_hidden {s m : Text} (hm : m ∈ hiddenNames) (stands : m <+: Text.folded s) :
    Pattern.nameAt? (registerNames "z80".toList) s = some "e".toList := by
  have names : registerNames "z80".toList =
      (registerNames "z80".toList).takeWhile (· ≠ "e".toList) ++ "e".toList ::
        (registerNames "z80".toList).drop 14 := by decide +kernel
  have start : ∀ m ∈ hiddenNames, "e".toList <+: m := by decide +kernel
  have apart : ∀ m ∈ hiddenNames, ∀ a ∈ (registerNames "z80".toList).takeWhile (· ≠ "e".toList),
      ¬a <+: m ∧ ¬m <+: a := by decide +kernel
  exact Pattern.nameAt?_of_longer names (start m hm) stands (apart m hm)

/-- **A register that is read is the longest name that stands there,** unless a hidden name
does. -/
theorem longer_stands_iff {p : Profile} (hp : p ∈ builtin.profiles) {s n : Text}
    (h : Pattern.nameAt? (registerNames p.key) s = some n) :
    (∃ t, t <+: s ∧ Text.folded t ∈ registerNames p.key ∧ n.length < t.length) ↔
      p.key = "z80".toList ∧ ∃ t, t <+: s ∧ Text.folded t ∈ hiddenNames := by
  have starts : ∀ {t : Text}, t <+: s → Text.folded t <+: Text.folded s := by
    rintro t ⟨r, rfl⟩
    rw [Text.folded_append]
    exact List.prefix_append ..
  constructor
  · rintro ⟨t, hts, ht, longer⟩
    rw [← Text.length_folded t] at longer
    have hides := Pattern.mem_hidden_of_nameAt? h ht (starts hts) longer
    have known := List.all_eq_true.1 hidden_definitions _ (compile_of_mem_builtin hp).1
    rw [decide_eq_true_eq, show p.definition.key = p.key from rfl] at known
    rw [known] at hides
    by_cases key : p.key = "z80".toList
    · rw [if_pos key] at hides
      have pairs : ∀ q ∈ [("e".toList, "eix".toList), ("e".toList, "eiy".toList)],
          q.2 ∈ hiddenNames := by decide
      exact ⟨key, t, hts, pairs _ hides⟩
    · rw [if_neg key] at hides
      cases hides
  · rintro ⟨key, t, hts, ht⟩
    rw [key] at h ⊢
    have read := nameAt?_of_hidden ht (starts hts)
    rw [h] at read
    cases read
    have listed : ∀ m ∈ hiddenNames, m ∈ registerNames "z80".toList ∧ 1 < m.length := by
      decide +kernel
    obtain ⟨member, longer⟩ := listed _ ht
    rw [Text.length_folded] at longer
    exact ⟨t, hts, member, longer⟩

end Architecture
end AsmListing
