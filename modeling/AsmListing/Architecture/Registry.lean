/-
# Registries

A registry holds the profiles of a list of definitions, in the order of the
list, and the place of each key among them.  It is refused at the first
definition that repeats a key or does not compile.  Like profiles, registries are those
of this library's own engine where no other is named.

A key is looked up by its place.  The places are kept in step with the profiles
(`Registry.inStep`), so that there is a profile at each of them, and it has the
key (`Registry.exists_of_place`).
-/

import AsmListing.Architecture.Profile
import AsmListing.Text.Blank
import AsmListing.Journal

namespace AsmListing
namespace Architecture

variable {Compiled Cause : Type}

/-- The profiles of some definitions, in their order. -/
structure Registry (Compiled : Type := Pattern) where
  profiles : List (Profile Compiled)
  /-- The keys with their places among the profiles, the latest first. -/
  places : List (Text × Nat)
  inStep : places = (profiles.map Profile.key).zipIdx.reverse
  deriving DecidableEq, Repr

namespace Registry

/-- The registry of no definitions. -/
def empty : Registry Compiled :=
  ⟨[], [], rfl⟩

/-- The place of the profile with a key. -/
def place? (r : Registry Compiled) (key : Text) : Option Nat :=
  r.places.lookup key

/-- The profile with a key. -/
def lookup (r : Registry Compiled) (key : Text) : Option (Profile Compiled) :=
  (r.place? key).bind fun i => r.profiles[i]?

/-- The registry with one more profile, at the end. -/
def push (r : Registry Compiled) (p : Profile Compiled) : Registry Compiled where
  profiles := r.profiles ++ [p]
  places := (p.key, r.profiles.length) :: r.places
  inStep := by rw [List.map_append, List.zipIdx_append, List.reverse_append, r.inStep]; simp

/-- The keys, in order. -/
def keys (r : Registry Compiled) : List Text :=
  r.profiles.map Profile.key

/-- The number of profiles. -/
def size (r : Registry Compiled) : Nat :=
  r.profiles.length

/-- Whether there is no profile. -/
def isEmpty (r : Registry Compiled) : Bool :=
  r.profiles.isEmpty

/-- The registry with one more definition. -/
def add (engine : Engine Compiled Cause) (r : Registry Compiled) (d : Definition) :
    Except (Fault Cause) (Registry Compiled) :=
  if (r.place? d.key).isSome then .error (.repeatedKey d.key)
  else (d.compileBy engine).map r.push

/-- The registry of a list of definitions, their patterns read by an engine. -/
def build (engine : Engine Compiled Cause) (ds : List Definition) :
    Except (Fault Cause) (Registry Compiled) :=
  ds.foldlM (add engine) empty

/-- The registry of a list of definitions. -/
abbrev ofDefinitions (ds : List Definition) : Except Fault Registry :=
  build Pattern.engine ds

/-- The entry about a registry that has been put together. -/
def builtEntry (r : Registry Compiled) : Entry :=
  ⟨.debug, "Built architecture registry with ".toList ++ Text.ofNat r.size ++
    " profiles".toList⟩

/-- What a word of a class list starts with to choose an architecture. -/
def selectorMark : Text :=
  "pdasm-arch-".toList

/-- The profile that a class list chooses: that of its first word that names a
known one. -/
def select (r : Registry Compiled) (classes : Text) : Option (Profile Compiled) :=
  (Text.words classes).findSome? fun w => (Text.after? selectorMark w).bind r.lookup

/-- The profile that an argument chooses, which is a class list if the mark of
a selector stands anywhere in it, and else a key. -/
def choose (r : Registry Compiled) (arg : Text) : Option (Profile Compiled) :=
  if Text.holds selectorMark arg then r.select arg else r.lookup arg

/-- The entries about an argument: a warning when it chooses nothing. -/
def choiceJournal (r : Registry Compiled) (arg : Text) : List Entry :=
  if (r.choose arg).isSome then []
  else [⟨.warn, "Unknown architecture `".toList ++ arg ++ "`, known: ".toList ++
    (", ".toList).intercalate r.keys⟩]

variable {r : Registry Compiled} {key : Text}

theorem mem_places_iff {i : Nat} :
    (key, i) ∈ r.places ↔ ∃ p, r.profiles[i]? = some p ∧ p.key = key := by
  rw [r.inStep, List.mem_reverse, List.mem_zipIdx_iff_getElem?, List.getElem?_map,
    Option.map_eq_some_iff]

/-- A key that has a place has its profile there. -/
theorem exists_of_place {i : Nat} (h : r.place? key = some i) :
    ∃ p, r.profiles[i]? = some p ∧ p.key = key := by
  obtain ⟨before, after, h, -⟩ := List.lookup_eq_some_iff.1 h
  exact mem_places_iff.1 (h ▸ List.mem_append_right _ (List.mem_cons_self ..))

theorem mem_profiles_of_lookup {p : Profile Compiled} (h : r.lookup key = some p) :
    p ∈ r.profiles ∧ p.key = key := by
  obtain ⟨i, hi, hp⟩ := Option.bind_eq_some_iff.1 h
  obtain ⟨q, hq, hk⟩ := exists_of_place hi
  obtain rfl : q = p := Option.some.inj (hq.symm.trans hp)
  exact ⟨List.mem_of_getElem? hp, hk⟩

end Registry

/-- The definitions compile, and every literal that their patterns match has a
marker and digits. -/
theorem complete_definitions :
    (Registry.ofDefinitions definitions).toOption.any
      (fun r => r.profiles.all fun p => p.literalStyle.complete) = true := by
  decide +kernel

theorem isOk_definitions : (Registry.ofDefinitions definitions).isOk = true :=
  Certain.isOk_of_any_toOption complete_definitions

/-- The registry of the architectures that are always known. -/
def builtin : Registry :=
  Certain.value (Registry.ofDefinitions definitions) isOk_definitions

theorem ofDefinitions_definitions : Registry.ofDefinitions definitions = .ok builtin :=
  Certain.eq_ok_value isOk_definitions

theorem complete_of_mem_builtin {p : Profile} (h : p ∈ builtin.profiles) :
    p.literalStyle.complete = true :=
  List.all_eq_true.1 (Certain.of_any_toOption ofDefinitions_definitions
    complete_definitions) p h

/-- Every literal of a known architecture, or of none, has its marker and its
digits. -/
theorem complete_lookup_builtin (key : Option Text) :
    (literalStyle (key.bind builtin.lookup)).complete = true := by
  cases h : key.bind builtin.lookup with
  | none => exact LiteralStyle.complete_generic
  | some p =>
    obtain ⟨k, -, hk⟩ := Option.bind_eq_some_iff.1 h
    exact complete_of_mem_builtin (Registry.mem_profiles_of_lookup hk).1

end Architecture
end AsmListing
