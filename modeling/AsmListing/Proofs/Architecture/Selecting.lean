/-
# What a class list chooses

A class list chooses the profile of the leftmost of its words that are the mark of a
selector and a known key (`Registry.select_eq_some_iff`), and blanks divide it into lists
that choose by themselves (`Registry.select_append_blanks`).

An argument is taken for a class list if the mark stands anywhere in it, and not only where
a word starts.  That takes the right one of the two ways as long as no key holds the mark
itself (`Registry.choose_eq`): an argument with the mark is then no key, and one without it
has no word that names an architecture.
-/

import AsmListing.Proofs.Architecture.Places
import AsmListing.Proofs.Text.WordPlaces

namespace AsmListing
namespace Architecture
namespace Registry

open Text (WordAt)

variable {r : Registry}

theorem bind_after_eq_some_iff {w : Text} {p : Profile} :
    (Text.after? selectorMark w).bind r.lookup = some p ↔
      ∃ k, w = selectorMark ++ k ∧ r.lookup k = some p := by
  rw [Option.bind_eq_some_iff]
  exact exists_congr fun k => and_congr_left' Text.after?_eq_some_iff

theorem bind_after_eq_none_iff {w : Text} :
    (Text.after? selectorMark w).bind r.lookup = none ↔
      ∀ k, w = selectorMark ++ k → k ∉ r.keys := by
  rw [Option.bind_eq_none_iff]
  exact forall_congr' fun k => imp_congr Text.after?_eq_some_iff lookup_eq_none_iff

/-- **A class list chooses by the leftmost of its words that name an architecture.** -/
theorem select_eq_some_iff (distinct : r.keys.Nodup) {classes : Text} {p : Profile} :
    r.select classes = some p ↔ p ∈ r.profiles ∧
      ∃ before after, WordAt classes before (selectorMark ++ p.key) after ∧
        ∀ b k a, WordAt classes b (selectorMark ++ k) a → k ∈ r.keys →
          before.length ≤ b.length := by
  rw [select, Text.findSome?_words_eq_some_iff]
  constructor
  · rintro ⟨before, w, after, at', hw, leftmost⟩
    obtain ⟨k, rfl, found⟩ := bind_after_eq_some_iff.1 hw
    obtain ⟨member, rfl⟩ := mem_profiles_of_lookup found
    refine ⟨member, before, after, at', fun b k a hk known => leftmost b _ a hk fun unknown => ?_⟩
    exact bind_after_eq_none_iff.1 unknown k rfl known
  · rintro ⟨member, before, after, at', leftmost⟩
    have found : r.lookup p.key = some p := (lookup_eq_some_iff distinct).2 ⟨member, rfl⟩
    refine ⟨before, _, after, at', bind_after_eq_some_iff.2 ⟨_, rfl, found⟩, fun b v a hv names => ?_⟩
    obtain ⟨q, hq⟩ := Option.ne_none_iff_exists'.1 names
    obtain ⟨k, rfl, hk⟩ := bind_after_eq_some_iff.1 hq
    obtain ⟨listed, rfl⟩ := mem_profiles_of_lookup hk
    exact leftmost b q.key a hv (List.mem_map_of_mem listed)

theorem select_eq_none_iff {classes : Text} :
    r.select classes = none ↔
      ∀ before k after, WordAt classes before (selectorMark ++ k) after → k ∉ r.keys := by
  rw [select, Text.findSome?_words_eq_none_iff]
  constructor
  · exact fun h before k after at' => bind_after_eq_none_iff.1 (h before _ after at') k rfl
  · intro h before w after at'
    refine bind_after_eq_none_iff.2 ?_
    rintro k rfl
    exact h before k after at'

/-- Of two class lists with blanks between them the first chooses if it can. -/
theorem select_append_blanks {w : Text} (hne : w ≠ []) (hw : ∀ c ∈ w, isBlank c = true)
    (s t : Text) : r.select (s ++ (w ++ t)) = (r.select s).or (r.select t) := by
  rw [select, Text.words_append_blanks hw hne, List.findSome?_append]
  rfl

theorem isBlank_of_mem_selectorMark : ∀ c ∈ selectorMark, isBlank c = false :=
  Text.unbroken_of_any rfl

/-- A class list of one word chooses what the key in it names. -/
theorem select_append {k : Text} (unbroken : ∀ c ∈ k, isBlank c = false) :
    r.select (selectorMark ++ k) = r.lookup k := by
  have blankless : ∀ c ∈ selectorMark ++ k, isBlank c = false := by
    intro c hc
    rcases List.mem_append.1 hc with hc | hc
    · exact isBlank_of_mem_selectorMark c hc
    · exact unbroken c hc
  have nonempty : selectorMark ++ k ≠ [] := List.append_ne_nil_of_left_ne_nil (by decide) k
  rw [select, Text.words_of_unbroken nonempty blankless, List.findSome?_singleton,
    Text.after?_eq_some_iff.2 rfl]
  rfl

/-- **An argument chooses as a key, or else as a class list,** where no key holds the mark
of a selector. -/
theorem choose_eq (unmarked : ∀ k ∈ r.keys, ¬ selectorMark <:+: k) (arg : Text) :
    r.choose arg = (r.lookup arg).or (r.select arg) := by
  by_cases marked : Text.holds selectorMark arg = true
  · have unknown : r.lookup arg = none :=
      lookup_eq_none_iff.2 fun listed => unmarked arg listed (Text.holds_eq_true_iff.1 marked)
    rw [choose, if_pos marked, unknown, Option.none_or]
  · have nameless : r.select arg = none := by
      refine select_eq_none_iff.2 fun before k after at' => absurd ?_ marked
      refine Text.holds_eq_true_iff.2 ⟨before, k ++ after, ?_⟩
      rw [at'.text_eq]
      simp
    rw [choose, if_neg marked, nameless, Option.or_none]

theorem keys_builtin : builtin.keys = definitions.map Definition.key :=
  (keys_of_build ofDefinitions_definitions).1

theorem unmarked_builtin : ∀ k ∈ builtin.keys, ¬ selectorMark <:+: k := by
  rw [keys_builtin]
  decide

/-- **A class list chooses by its leftmost word that names an architecture, and an argument
as a key or else as a class list.**  In every registry of definitions a class list chooses
the profile of which the key stands, behind the mark of a selector, in the leftmost maximal
run without blanks that is the mark and a known key, and nothing if there is no such run.
Hence of two class lists with blanks between them the second chooses where the first does
not, and the mark and a key without blanks choose what the key names.  Among the
architectures that are always known every argument chooses what it names as a key, and if
it is none, what it chooses as a class list. -/
theorem select_leftmost {ds : List Definition} {r : Registry} (h : ofDefinitions ds = .ok r) :
    (∀ classes p, r.select classes = some p ↔ p ∈ r.profiles ∧
      ∃ before after, WordAt classes before (selectorMark ++ p.key) after ∧
        ∀ b k a, WordAt classes b (selectorMark ++ k) a → k ∈ r.keys →
          before.length ≤ b.length) ∧
    (∀ classes, r.select classes = none ↔
      ∀ before k after, WordAt classes before (selectorMark ++ k) after → k ∉ r.keys) ∧
    (∀ s w t, w ≠ [] → (∀ c ∈ w, isBlank c = true) →
      r.select (s ++ (w ++ t)) = (r.select s).or (r.select t)) ∧
    (∀ k, (∀ c ∈ k, isBlank c = false) → r.select (selectorMark ++ k) = r.lookup k) ∧
    ∀ arg, builtin.choose arg = (builtin.lookup arg).or (builtin.select arg) :=
  ⟨fun _ _ => select_eq_some_iff (keys_of_build h).2, fun _ => select_eq_none_iff,
    fun s _ t hne hw => select_append_blanks hne hw s t, fun _ => select_append,
    choose_eq unmarked_builtin⟩

/-- A class of no known architecture, and one in which the mark is not in front, stand before
the class that is chosen by. -/
theorem select_leftmost_z80 :
    let classes := (selectorMark ++ "nope".toList) ++ (['\u3000'] ++
      ('x' :: selectorMark ++ "arm".toList ++ (['\t'] ++ (selectorMark ++ "z80".toList))))
    ofDefinitions definitions = .ok builtin ∧
    ∃ p before after, builtin.choose classes = some p ∧ p.key = "z80".toList ∧
      WordAt classes before (selectorMark ++ p.key) after ∧
      ∀ b k a, WordAt classes b (selectorMark ++ k) a → k ∈ builtin.keys →
        before.length ≤ b.length := by
  intro classes
  obtain ⟨leftmost, -, divided, alone, chosen⟩ := select_leftmost ofDefinitions_definitions
  have unknown : ∀ key, key ∉ definitions.map Definition.key → builtin.lookup key = none :=
    fun key h => lookup_eq_none_iff.2 (keys_builtin ▸ h)
  obtain ⟨p, hp⟩ : ∃ p, builtin.lookup "z80".toList = some p := by
    refine Option.ne_none_iff_exists'.1 (mt lookup_eq_none_iff.1 (not_not.2 ?_))
    rw [keys_builtin]
    decide
  have picked : builtin.select classes = some p := by
    have unmarked : builtin.select ('x' :: selectorMark ++ "arm".toList) = none := rfl
    rw [divided _ _ _ (by decide) (List.all_eq_true.1 rfl),
      divided _ _ _ (by decide) (List.all_eq_true.1 rfl), unmarked,
      alone "nope".toList (Text.unbroken_of_any rfl), unknown "nope".toList (by decide),
      alone "z80".toList (Text.unbroken_of_any rfl), hp]
    rfl
  obtain ⟨-, before, after, at', first⟩ := (leftmost classes p).1 picked
  have key_eq : p.key = "z80".toList := (mem_profiles_of_lookup hp).2
  refine ⟨ofDefinitions_definitions, p, before, after, ?_, key_eq, at', first⟩
  rw [chosen, unknown classes (by decide), picked]
  rfl

end Registry
end Architecture
end AsmListing
