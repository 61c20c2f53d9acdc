import TypeMapper.Proofs.Construction.Finding
import TypeMapper.Proofs.Routine.Names
/-!
# Instances of resolvers

Every instance of a resolver that a routine builds is one of a resolver of the schema. It takes what
the constructor of that resolver has no defaults for, and each parameter goes by the name of the
instance with its own name behind it. No two instances have one name, and none are for one resolver.

* `Helpers.freshIdent_cases`: the search for a name that no instance has finds one.
* `ResolverInstance.Takes`, `Serves`: the parameters of an instance, and the resolvers it is for.
* `Helpers.Made`: all instances are such; `Helpers.Made.resolver` is the step that makes one.
* `Helpers.Sound`: the INVARIANT of instances and parameters; `Helpers.Sound.use` is the step.
* `Builder.sound_properties`: the helpers for the properties of a mapping.
-/

namespace TypeMapper

variable {s : Schema} {h : Helpers}

/-! ## 1. Names of instances -/

namespace Helpers

open RoutineNames

variable {taken : List String} {base : String}

/-- The search ends at the first number whose name is free, or where its bound is reached. -/
theorem exists_freshFrom (taken : List String) (base : String) (fuel n : Nat) :
    ∃ k, n ≤ k ∧ freshFrom taken base fuel n = numbered base k ∧
      (∀ j, n ≤ j → j < k → numbered base j ∈ taken) ∧
      (numbered base k ∉ taken ∨ k = n + fuel) := by
  induction fuel generalizing n with
  | zero => exact ⟨n, Nat.le_refl n, rfl, fun j hj hk => absurd hk (Nat.not_lt.mpr hj), .inr rfl⟩
  | succ fuel ih =>
      unfold freshFrom
      split
      · rename_i htaken
        obtain ⟨k, hk, hname, hbelow, hend⟩ := ih (n + 1)
        refine ⟨k, Nat.le_of_succ_le hk, hname, fun j hj hjk => ?_, hend.imp_right fun h => by omega⟩
        rcases Nat.eq_or_lt_of_le hj with rfl | hlt
        · exact List.contains_iff_mem.mp htaken
        · exact hbelow j hlt hjk
      · rename_i hfree
        refine ⟨n, Nat.le_refl n, rfl, fun j hj hk => absurd hk (Nat.not_lt.mpr hj), .inl ?_⟩
        exact fun hmem => hfree (List.contains_iff_mem.mpr hmem)

theorem ne_numbered (base : String) (n : Nat) : base ≠ numbered base n := fun h => by
  have hlength := congrArg String.length h
  have hmark : "_".length = 1 := rfl
  simp only [numbered, String.length_append, hmark] at hlength
  omega

/-- The bound of the search is never reached: the base and the names before it would be more names
than there are. -/
theorem freshFrom_not_mem (hbase : base ∈ taken) :
    freshFrom taken base taken.length 2 ∉ taken := by
  obtain ⟨k, -, hname, hbelow, hend⟩ := exists_freshFrom taken base taken.length 2
  rw [hname]
  refine hend.resolve_right fun hk => ?_
  let tried := base :: (List.range' 2 taken.length).map (numbered base)
  have hnodup : tried.Nodup := by
    refine List.nodup_cons.mpr ⟨fun hmem => ?_, ?_⟩
    · obtain ⟨j, -, hj⟩ := List.mem_map.mp hmem
      exact ne_numbered base j hj.symm
    · have hrange : (List.range' 2 taken.length).Nodup := List.nodup_range'
      exact hrange.map fun i j => eq_of_numbered_eq
  have hsubset : tried ⊆ taken := by
    refine List.cons_subset.mpr ⟨hbase, fun x hx => ?_⟩
    obtain ⟨j, hj, rfl⟩ := List.mem_map.mp hx
    obtain ⟨hlow, hhigh⟩ := List.mem_range'_1.mp hj
    exact hbelow j hlow (by omega)
  have hle := (List.subperm_of_subset hnodup hsubset).length_le
  simp only [tried, List.length_cons, List.length_map, List.length_range'] at hle
  omega

/-- **A name for an instance is free**: the base itself, or the base with a number behind it if an
instance has the base for a name. -/
theorem freshIdent_cases (h : Helpers) (base : String) :
    h.freshIdent base ∉ h.resolvers.map ResolverInstance.ident ∧
      (h.freshIdent base = base ∨ base ∈ h.resolvers.map ResolverInstance.ident ∧
        ∃ n, h.freshIdent base = numbered base n) := by
  unfold freshIdent
  dsimp only
  split
  · rename_i htaken
    have hbase := List.contains_iff_mem.mp htaken
    obtain ⟨k, -, hname, -⟩ := exists_freshFrom (h.resolvers.map ResolverInstance.ident) base
      (h.resolvers.map ResolverInstance.ident).length 2
    exact ⟨freshFrom_not_mem hbase, .inr ⟨hbase, k, hname⟩⟩
  · rename_i hfree
    exact ⟨fun hmem => hfree (List.contains_iff_mem.mpr hmem), .inl rfl⟩

end Helpers

/-! ## 2. Instances of the resolvers of a schema -/

/-- The instance takes what the constructor of a resolver takes, under names that begin with its
own. -/
def ResolverInstance.Takes (i : ResolverInstance) (r : Resolver) : Prop :=
  i.arguments = (Helpers.constructorParameters r).map fun p =>
    EntryParameter.ofLocal (i.ident ++ "_" ++ p.name) p.ty

/-- The instance serves for a resolver: it is one of the same path and takes the same types. -/
def ResolverInstance.Serves (i : ResolverInstance) (r : Resolver) : Prop :=
  i.path = r.path ∧
    i.arguments.map EntryParameter.ty = (Helpers.constructorParameters r).map Parameter.ty

/-- What takes what a resolver takes serves for it. -/
theorem ResolverInstance.Takes.serves {i : ResolverInstance} {r : Resolver} (htakes : i.Takes r)
    (hpath : i.path = r.path) : i.Serves r := by
  refine ⟨hpath, ?_⟩
  rw [htakes, List.map_map]
  rfl

namespace Helpers

/-- **The invariant of instances**: each is one of the resolver of the schema at its path. -/
def Made (s : Schema) (h : Helpers) : Prop :=
  ∀ i ∈ h.resolvers, ∃ r, s.resolver? i.path = some r ∧ i.Takes r

theorem made_none (s : Schema) : none.Made s := fun _ hi => absurd hi List.not_mem_nil

theorem resolvers_addParameters (h : Helpers) (ps : List EntryParameter) :
    (h.addParameters ps).resolvers = h.resolvers := by
  unfold addParameters
  induction ps generalizing h with
  | nil => rfl
  | cons p ps ih => rw [List.foldl_cons, ih, addParameter_resolvers]

theorem serves_of_instance {r : Resolver} {i : ResolverInstance} (hi : h.instance? r = some i) :
    i ∈ h.resolvers ∧ i.Serves r := by
  have hfound := List.find?_some hi
  rw [Bool.and_eq_true, beq_iff_eq, beq_iff_eq] at hfound
  exact ⟨List.mem_of_find?_eq_some hi, hfound⟩

theorem not_serves_of_no_instance {r : Resolver} {i : ResolverInstance}
    (hnone : h.instance? r = .none) (hi : i ∈ h.resolvers) : ¬ i.Serves r := by
  have hmissed := List.find?_eq_none.mp hnone i hi
  rwa [Bool.and_eq_true, beq_iff_eq, beq_iff_eq] at hmissed

/-- A call of a resolver goes through the instance of it that there is. -/
theorem resolver_of_instance {r : Resolver} {i : ResolverInstance} (hi : h.instance? r = some i) :
    h.resolver r = (callOf r i.ident, h) := by
  unfold Helpers.resolver
  rw [hi]

/-- A call of a resolver without an instance makes one, and what that takes parameters. -/
theorem resolver_of_no_instance {r : Resolver} (hnone : h.instance? r = .none) :
    h.resolver r = (callOf r (h.newInstance r).ident, ⟨h.resolvers ++ [h.newInstance r],
      (h.addParameters (h.newInstance r).arguments).parameters⟩) := by
  unfold Helpers.resolver
  rw [hnone]
  dsimp only
  rw [resolvers_addParameters]

/-- **A call of a resolver** makes an instance of it, if there is none that it can go through. -/
theorem Made.resolver (hm : h.Made s) {r : Resolver} (hr : s.resolver? r.path = some r) :
    (h.resolver r).2.Made s := by
  cases hi : h.instance? r with
  | some i =>
      rw [resolver_of_instance hi]
      exact hm
  | none =>
      rw [resolver_of_no_instance hi]
      exact List.forall_mem_append.mpr ⟨hm, List.forall_mem_singleton.mpr ⟨r, hr, rfl⟩⟩

/-! ## 3. Different instances and parameters -/

/-- **The invariant of helpers**: every instance is one of its own name and of its own resolver, what
it takes are parameters, and these are different and go by the names that their helpers know. -/
structure Sound (s : Schema) (h : Helpers) : Prop where
  made : h.Made s
  idents : (h.resolvers.map ResolverInstance.ident).Nodup
  paths : (h.resolvers.map ResolverInstance.path).Nodup
  keys : (h.parameters.map EntryParameter.key).Nodup
  unrenamed : ∀ p ∈ h.parameters, p.name = p.localName
  taken : ∀ i ∈ h.resolvers, i.arguments ⊆ h.parameters

theorem sound_none (s : Schema) : none.Sound s :=
  ⟨made_none s, List.nodup_nil, List.nodup_nil, List.nodup_nil, nofun, nofun⟩

/-- A new entry of another value keeps the values different. -/
theorem nodup_map_append_singleton {α β : Type} {f : α → β} {xs : List α} {x : α}
    (hxs : (xs.map f).Nodup) (hx : f x ∉ xs.map f) : ((xs ++ [x]).map f).Nodup := by
  rw [List.map_append, List.map_singleton, ← List.concat_eq_append]
  exact hxs.concat hx

/-- A parameter that goes by the name that its helper knows is told by its key. -/
theorem eq_of_key_eq {p q : EntryParameter} (hp : p.name = p.localName) (hq : q.name = q.localName)
    (h : q.key = p.key) : q = p := by
  cases p
  cases q
  obtain ⟨rfl, rfl⟩ := Prod.mk.inj h
  dsimp only at hp hq
  rw [hp, hq]

theorem Sound.addParameter (hs : h.Sound s) {p : EntryParameter} (hp : p.name = p.localName) :
    (h.addParameter p).Sound s ∧ p ∈ (h.addParameter p).parameters := by
  unfold Helpers.addParameter
  split
  · rename_i hin
    obtain ⟨q, hq, hkey⟩ := EntryParameter.isIn_iff.mp hin
    exact ⟨hs, eq_of_key_eq hp (hs.unrenamed q hq) hkey ▸ hq⟩
  · rename_i hin
    refine ⟨⟨hs.made, hs.idents, hs.paths, ?_, ?_, fun i hi a ha => ?_⟩,
      List.mem_append_right _ List.mem_cons_self⟩
    · refine nodup_map_append_singleton hs.keys fun hkey => hin ?_
      obtain ⟨q, hq, hkey⟩ := List.mem_map.mp hkey
      exact EntryParameter.isIn_iff.mpr ⟨q, hq, hkey⟩
    · exact List.forall_mem_append.mpr ⟨hs.unrenamed, List.forall_mem_singleton.mpr hp⟩
    · exact List.mem_append_left _ (hs.taken i hi ha)

theorem Sound.addParameters (hs : h.Sound s) {ps : List EntryParameter}
    (hps : ∀ p ∈ ps, p.name = p.localName) :
    (h.addParameters ps).Sound s ∧ ps ⊆ (h.addParameters ps).parameters := by
  induction ps generalizing h with
  | nil => exact ⟨hs, List.nil_subset _⟩
  | cons p ps ih =>
      obtain ⟨hp, hps⟩ := List.forall_mem_cons.mp hps
      obtain ⟨hone, hmem⟩ := hs.addParameter hp
      obtain ⟨hall, hsubset⟩ := ih hone hps
      have hgrow := ((h.addParameter p).grow_addParameters ps).1
      exact ⟨hall, List.cons_subset.mpr ⟨hgrow.parameters hmem, hsubset⟩⟩

/-- An instance of a resolver of the schema is found by its path. -/
theorem Made.path_not_mem (hm : h.Made s) {r : Resolver} (hr : s.resolver? r.path = some r)
    (hnone : h.instance? r = .none) : r.path ∉ h.resolvers.map ResolverInstance.path := by
  intro hmem
  obtain ⟨i, hi, hpath⟩ := List.mem_map.mp hmem
  obtain ⟨r', hr', htakes⟩ := hm i hi
  rw [hpath] at hr'
  obtain rfl := Option.some.inj (hr.symm.trans hr')
  exact not_serves_of_no_instance hnone hi (htakes.serves hpath)

/-- **A call of a resolver** makes an instance of another name for another resolver, and makes what
that takes parameters. -/
theorem Sound.resolver (hs : h.Sound s) {r : Resolver} (hr : s.resolver? r.path = some r) :
    (h.resolver r).2.Sound s := by
  have hmade := hs.made.resolver hr
  cases hi : h.instance? r with
  | some i =>
      rw [resolver_of_instance hi]
      exact hs
  | none =>
      have harguments : ∀ a ∈ (h.newInstance r).arguments, a.name = a.localName := fun a ha => by
        obtain ⟨p, -, rfl⟩ := List.mem_map.mp ha
        rfl
      obtain ⟨hsound, hsubset⟩ := hs.addParameters harguments
      have htaken := hsound.taken
      rw [resolvers_addParameters] at htaken
      rw [resolver_of_no_instance hi] at hmade ⊢
      exact ⟨hmade, nodup_map_append_singleton hs.idents (h.freshIdent_cases _).1,
        nodup_map_append_singleton hs.paths (hs.made.path_not_mem hr hi), hsound.keys,
        hsound.unrenamed, List.forall_mem_append.mpr
          ⟨htaken, List.forall_mem_singleton.mpr hsubset⟩⟩

/-- **Every helper that is found** keeps the invariant. -/
theorem Sound.use (hs : h.Sound s) {f : Helper}
    (hf : ∀ r, f = .resolver r → s.resolver? r.path = some r) : (h.use f).Sound s := by
  cases f with
  | resolver r => exact hs.resolver (hf r rfl)
  | method owner m =>
      refine (hs.addParameters fun p hp => ?_).1
      obtain ⟨q, -, rfl⟩ := List.mem_map.mp hp
      rfl

end Helpers

/-! ## 4. Runs over pairs -/

namespace Builder

/-- **The helpers for the properties of pairs** meet the invariant. -/
theorem sound_properties (b : Builder) (ms : List PropertyMatch) :
    (b.properties Helpers.none ms).2.1.Sound b.schema :=
  properties_keep (fun _ hk _ _ hf => hk.use fun _ he => (he ▸ hf).resolver?)
    (Helpers.sound_none b.schema)

end Builder

end TypeMapper
