/-
# Places in a registry

A definition is added only under a key that the registry does not have yet
(`Registry.keys_of_add`), so the keys of a registry that was put together are those of
its definitions, in their order, and no two are equal (`Registry.keys_of_foldlM`).
Where no two keys are equal, a profile is found under its own key and under no other
(`Registry.lookup_eq_some_iff`): each key has one place, and the latest one that is
looked at first is also the only one.  So the profile of each definition is found under
its key (`Registry.exists_lookup_of_mem`), and a list is refused for a definition that
repeats a key or does not compile (`Registry.exists_of_build_error`).
-/

import Mathlib.Data.List.Nodup
import AsmListing.Proofs.Architecture.Compiling

namespace AsmListing
namespace Architecture

variable {Compiled Cause : Type} {engine : Engine Compiled Cause}

namespace Registry

variable {ds : List Definition} {d : Definition} {r r' : Registry Compiled} {key : Text}
  {p : Profile Compiled}

theorem place?_eq_none_iff : r.place? key = none ↔ key ∉ r.keys := by
  rw [place?, List.lookup_eq_none_iff, keys, List.mem_map]
  constructor
  · rintro absent ⟨p, hp, rfl⟩
    obtain ⟨i, hi⟩ := List.mem_iff_getElem?.1 hp
    simpa using absent _ (mem_places_iff.2 ⟨p, hi, rfl⟩)
  · rintro absent ⟨key', i⟩ placed
    obtain ⟨p, hp, hk⟩ := mem_places_iff.1 placed
    have other : key ≠ p.key := fun h => absent ⟨p, List.mem_of_getElem? hp, h.symm⟩
    simpa [← hk] using other

theorem lookup_eq_none_iff : r.lookup key = none ↔ key ∉ r.keys := by
  rw [← place?_eq_none_iff, lookup]
  cases h : r.place? key with
  | none => simp
  | some i =>
    obtain ⟨p, hp, -⟩ := exists_of_place h
    simp [hp]

/-- **Where no two keys are equal, a profile is found under its key alone.** -/
theorem lookup_eq_some_iff (distinct : r.keys.Nodup) :
    r.lookup key = some p ↔ p ∈ r.profiles ∧ p.key = key := by
  refine ⟨mem_profiles_of_lookup, fun ⟨member, hk⟩ => ?_⟩
  have listed : key ∈ r.keys := List.mem_map.2 ⟨p, member, hk⟩
  obtain ⟨q, hq⟩ := Option.ne_none_iff_exists'.1 (mt lookup_eq_none_iff.1 (not_not.2 listed))
  obtain ⟨member', hk'⟩ := mem_profiles_of_lookup hq
  rw [hq, List.inj_on_of_nodup_map distinct member' member (hk'.trans hk.symm)]

theorem add_of_mem (h : d.key ∈ r.keys) : r.add engine d = .error (.repeatedKey d.key) :=
  if_pos (Option.isSome_iff_ne_none.2 (mt place?_eq_none_iff.1 (not_not.2 h)))

theorem add_of_not_mem (h : d.key ∉ r.keys) :
    r.add engine d = (d.compileBy engine).map r.push := by
  rw [add, place?_eq_none_iff.2 h]
  rfl

/-- A definition is added under a key of its own. -/
theorem keys_of_add (h : r.add engine d = .ok r') :
    d.key ∉ r.keys ∧ r'.keys = r.keys ++ [d.key] := by
  have free : d.key ∉ r.keys := by
    intro listed
    rw [add_of_mem listed] at h
    cases h
  obtain ⟨p, hp, hprofiles⟩ := add_eq_ok h
  obtain ⟨rfl, -⟩ := Definition.eq_of_compileBy hp
  refine ⟨free, ?_⟩
  rw [keys, hprofiles, List.map_append]
  rfl

/-- **The keys of the definitions are added in their order,** and no two are equal. -/
theorem keys_of_foldlM (h : ds.foldlM (add engine) r = .ok r') (distinct : r.keys.Nodup) :
    r'.keys = r.keys ++ ds.map Definition.key ∧ r'.keys.Nodup := by
  induction ds generalizing r with
  | nil =>
    cases h
    exact ⟨(List.append_nil _).symm, distinct⟩
  | cons d ds ih =>
    rw [List.foldlM_cons] at h
    obtain ⟨r₁, hadd, hfold⟩ := Certain.bind_eq_ok_iff.1 h
    obtain ⟨free, hkeys⟩ := keys_of_add hadd
    have distinct₁ : r₁.keys.Nodup := by
      rw [hkeys, ← List.concat_eq_append]
      exact distinct.concat free
    obtain ⟨keys_eq, distinct'⟩ := ih hfold distinct₁
    exact ⟨by rw [keys_eq, hkeys, List.append_assoc]; rfl, distinct'⟩

theorem keys_of_build (h : build engine ds = .ok r) :
    r.keys = ds.map Definition.key ∧ r.keys.Nodup :=
  keys_of_foldlM h List.nodup_nil

/-- The profile of a definition is found under its key. -/
theorem exists_lookup_of_mem (h : build engine ds = .ok r) (hd : d ∈ ds) :
    ∃ p, d.compileBy engine = .ok p ∧ r.lookup d.key = some p := by
  obtain ⟨same, compiled⟩ := List.forall₂_iff_get.1 (profiles_of_build h)
  obtain ⟨i, hi, rfl⟩ := List.getElem_of_mem hd
  have hp := compiled i hi (same ▸ hi)
  refine ⟨_, hp, (lookup_eq_some_iff (keys_of_build h).2).2 ⟨List.get_mem .., ?_⟩⟩
  exact congrArg Definition.key (Definition.eq_of_compileBy hp).1

/-- **The profile with a key is that of the first definition with this key.** -/
theorem lookup_of_find? (h : build engine ds = .ok r)
    (hd : ds.find? (fun d => d.key = key) = some d) (hp : d.compileBy engine = .ok p) :
    r.lookup key = some p := by
  obtain rfl : d.key = key := by simpa using List.find?_some hd
  obtain ⟨q, hq, found⟩ := exists_lookup_of_mem h (List.mem_of_find?_eq_some hd)
  rw [found, Except.ok.inj (hq.symm.trans hp)]

/-- **A list of definitions is refused for one of them,** which repeats a key or does
not compile. -/
theorem exists_of_build_error {fault : Fault Cause} (h : build engine ds = .error fault) :
    ∃ d ∈ ds, fault = .repeatedKey d.key ∨ d.compileBy engine = .error fault := by
  obtain ⟨before, d, after, r, rfl, -, hadd⟩ := foldlM_eq_error_iff.1 h
  refine ⟨d, List.mem_append_right _ (List.mem_cons_self ..), ?_⟩
  by_cases repeats : d.key ∈ r.keys
  · rw [add_of_mem repeats] at hadd
    cases hadd
    exact .inl rfl
  · rw [add_of_not_mem repeats] at hadd
    cases hc : d.compileBy engine with
    | error e => rw [hc] at hadd; cases hadd; exact .inr rfl
    | ok p => rw [hc] at hadd; cases hadd

end Registry

/-! ### The architectures that are always known -/

/-- A profile that is always known comes from one of the definitions. -/
theorem compile_of_mem_builtin {p : Profile} (hp : p ∈ builtin.profiles) :
    p.definition ∈ definitions ∧ p.definition.compile = .ok p := by
  obtain ⟨d, hd, compiled⟩ := Registry.exists_compile_of_mem ofDefinitions_definitions hp
  obtain ⟨rfl, -⟩ := Definition.eq_of_compileBy compiled
  exact ⟨hd, compiled⟩

/-- A profile that is looked up is always known. -/
theorem mem_builtin_of_lookup {key : Text} {p : Profile} (h : builtin.lookup key = some p) :
    ∀ q ∈ some p, q ∈ builtin.profiles := by
  rintro q ⟨⟩
  exact (Registry.mem_profiles_of_lookup h).1

/-- What is found out about the profile with a key by compiling its definition. -/
theorem exists_lookup_builtin (key : Text) (f : Profile → Bool)
    (h : (definitions.find? fun d => d.key = key).any (fun d => d.compile.toOption.any f) = true) :
    ∃ p, builtin.lookup key = some p ∧ f p = true := by
  obtain ⟨d, hd, h⟩ := (Option.any_eq_true _ _).1 h
  obtain ⟨p, hp, hf⟩ := (Option.any_eq_true _ _).1 h
  exact ⟨p, Registry.lookup_of_find? ofDefinitions_definitions hd
    (Certain.eq_ok_of_toOption hp), hf⟩

end Architecture
end AsmListing
