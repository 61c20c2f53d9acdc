import TypeMapper.Proofs.Construction.Resolvers
/-!
# What helpers are there for

A mapping collects the resolvers that its routine builds and the parameters of its helpers while its
properties are built one after the other. What a recorded property calls is there. The other way
round, nothing is left over if no property was left out, that is, if no error was reported.

* `Mapping.Equips`: the helpers of a mapping are what its properties need.
* `Helpers.mem_use_resolvers`, `mem_use_parameters`: what one more helper adds is for its call.
* `Builder.properties_used`: so is what a run without errors adds.
* `Mapping.equips_of_build`: every mapping that is built is so equipped.
-/

namespace TypeMapper

/-! ## 1. Uses -/

/-- A property calls the resolver of an instance, by its name. -/
def ResolverInstance.IsCalledBy (i : ResolverInstance) (p : PropertyMapping) : Prop :=
  ∃ c, Strategy.resolver c ∈ p.strategies ∧ c.instanceName = i.ident ∧ c.path = i.path

/-- A parameter is an argument of a method that a property calls. -/
def EntryParameter.IsPassedBy (q : EntryParameter) (p : PropertyMapping) : Prop :=
  ∃ c, Strategy.method c ∈ p.strategies ∧
    ∃ a ∈ c.arguments, q = EntryParameter.ofLocal a.name a.ty

/-- The resolvers and parameters of a mapping are what properties need. -/
structure Mapping.Equips (s : Schema) (n : Mapping) (ps : List PropertyMapping) : Prop where
  /-- There is one instance of a resolver at most. -/
  paths : (n.resolvers.map ResolverInstance.path).Nodup
  /-- A call of a resolver goes by the name of the instance for its path, and of no other. -/
  calls : ∀ p ∈ ps, ∀ c, Strategy.resolver c ∈ p.strategies → ∃ i ∈ n.resolvers,
    i.path = c.path ∧ ∀ j ∈ n.resolvers, j.ident = c.instanceName ↔ j = i
  /-- An instance takes what the constructor of its resolver has no default for. -/
  arguments : ∀ i ∈ n.resolvers, ∃ r, s.resolver? i.path = some r ∧ i.Takes r ∧
    i.arguments ⊆ n.localParameters
  /-- What a method takes beside its subject is a parameter. -/
  passed : ∀ p ∈ ps, ∀ c, Strategy.method c ∈ p.strategies →
    ∀ a ∈ c.arguments, EntryParameter.ofLocal a.name a.ty ∈ n.localParameters
  keys : (n.localParameters.map EntryParameter.key).Nodup
  /-- Without errors, no instance is left over. -/
  called : n.isValid = true → ∀ i ∈ n.resolvers, ∃ p ∈ ps, i.IsCalledBy p
  /-- Without errors, no parameter is left over. -/
  needed : n.isValid = true → ∀ q ∈ n.localParameters,
    (∃ i ∈ n.resolvers, q ∈ i.arguments) ∨ ∃ p ∈ ps, q.IsPassedBy p

/-! ## 2. One more helper -/

namespace Helpers

variable {h : Helpers} {f : Helper} {i : ResolverInstance} {q : EntryParameter}

theorem mem_addParameters {ps : List EntryParameter} (hq : q ∈ (h.addParameters ps).parameters) :
    q ∈ h.parameters ∨ q ∈ ps := by
  induction ps generalizing h with
  | nil => exact .inl hq
  | cons p ps ih =>
      rcases ih hq with hq | hq
      · unfold addParameter at hq
        split at hq
        · exact .inl hq
        · exact (List.mem_append.mp hq).imp_right fun hq =>
            List.mem_cons.mpr (.inl (List.mem_singleton.mp hq))
      · exact .inr (List.mem_cons_of_mem p hq)

/-- **An instance that a helper adds** is the one that its call goes through. -/
theorem mem_use_resolvers (subject : TypeRef) (hi : i ∈ (h.use f).resolvers) :
    i ∈ h.resolvers ∨ ∃ c, h.call subject f = .resolver c ∧ c.instanceName = i.ident ∧
      c.path = i.path := by
  cases f with
  | method owner m =>
      rw [use, resolvers_addParameters] at hi
      exact .inl hi
  | resolver r =>
      rw [use] at hi
      cases hfound : h.instance? r with
      | some j =>
          rw [resolver_of_instance hfound] at hi
          exact .inl hi
      | none =>
          rw [resolver_of_no_instance hfound] at hi
          refine (List.mem_append.mp hi).imp_right fun hi => ?_
          obtain rfl := List.mem_singleton.mp hi
          rw [call, resolver_of_no_instance hfound]
          exact ⟨_, rfl, rfl, rfl⟩

/-- **A parameter that a helper adds** is one that the constructor of its instance takes, or one that
its call passes. -/
theorem mem_use_parameters (subject : TypeRef) (hq : q ∈ (h.use f).parameters) :
    q ∈ h.parameters ∨ (∃ i ∈ (h.use f).resolvers, q ∈ i.arguments) ∨
      ∃ c, h.call subject f = .method c ∧
        ∃ a ∈ c.arguments, q = EntryParameter.ofLocal a.name a.ty := by
  cases f with
  | method owner m =>
      refine (mem_addParameters hq).imp_right fun hq => .inr ⟨_, rfl, ?_⟩
      obtain ⟨a, ha, rfl⟩ := List.mem_map.mp hq
      exact ⟨a, ha, rfl⟩
  | resolver r =>
      rw [use] at hq ⊢
      cases hfound : h.instance? r with
      | some j =>
          rw [resolver_of_instance hfound] at hq
          exact .inl hq
      | none =>
          rw [resolver_of_no_instance hfound] at hq ⊢
          exact (mem_addParameters hq).imp_right fun hq =>
            .inl ⟨h.newInstance r, List.mem_append_right _ List.mem_cons_self, hq⟩

end Helpers

/-! ## 3. Runs over pairs -/

namespace Builder

variable {b : Builder} {h : Helpers} {m : PropertyMatch} {ms : List PropertyMatch}

/-- A pair without an error is recorded, and what it adds is for its own property. -/
theorem exists_property_of_clean (hm : m.source ≠ [])
    (hclean : Diagnostic.hasErrors (b.property h m).1.reports = false) :
    ∃ p, (b.property h m).1 = .ok p ∧
      (∀ i ∈ (b.property h m).2.resolvers, i ∈ h.resolvers ∨ i.IsCalledBy p) ∧
      ∀ q ∈ (b.property h m).2.parameters, q ∈ h.parameters ∨
        (∃ i ∈ (b.property h m).2.resolvers, q ∈ i.arguments) ∨ q.IsPassedBy p := by
  obtain ⟨p, hp, -⟩ := (property_builds (b := b) (h := h) hm).meets.exists_ok hclean
  refine ⟨p, hp, ?_⟩
  by_cases hf : ∃ f, b.Finds m f
  · obtain ⟨f, hf⟩ := hf
    obtain ⟨huse, hcall⟩ := property_of_finds (h := h) hm hf
    have hmem := hcall p hp
    rw [huse]
    refine ⟨fun i hi => ?_, fun q hq => ?_⟩
    · refine (Helpers.mem_use_resolvers (b.subject m) hi).imp_right ?_
      rintro ⟨c, hc, hname, hpath⟩
      exact ⟨c, hc ▸ hmem, hname, hpath⟩
    · refine (Helpers.mem_use_parameters (b.subject m) hq).imp_right (Or.imp_right ?_)
      rintro ⟨c, hc, ha⟩
      exact ⟨c, hc ▸ hmem, ha⟩
  · rw [property_of_not_finds hm fun f hf' => hf ⟨f, hf'⟩]
    exact ⟨fun i hi => .inl hi, fun q hq => .inl hq⟩

/-- **What a run over pairs without errors adds** is for the properties that it records. -/
theorem properties_used (hms : ∀ m ∈ ms, m.source ≠ [])
    (hclean : Diagnostic.hasErrors (b.properties h ms).2.2 = false) :
    (∀ i ∈ (b.properties h ms).2.1.resolvers,
      i ∈ h.resolvers ∨ ∃ p ∈ (b.properties h ms).1, i.IsCalledBy p) ∧
    ∀ q ∈ (b.properties h ms).2.1.parameters, q ∈ h.parameters ∨
      (∃ i ∈ (b.properties h ms).2.1.resolvers, q ∈ i.arguments) ∨
        ∃ p ∈ (b.properties h ms).1, q.IsPassedBy p := by
  induction ms generalizing h with
  | nil => exact ⟨fun i hi => .inl hi, fun q hq => .inl hq⟩
  | cons m ms ih =>
      obtain ⟨hm, hms⟩ := List.forall_mem_cons.mp hms
      have hboth : Diagnostic.hasErrors ((b.property h m).1.reports ++
          (b.properties (b.property h m).2 ms).2.2) = false := hclean
      rw [Diagnostic.hasErrors_append, Bool.or_eq_false_iff] at hboth
      obtain ⟨p, hp, hfirst, hparameters⟩ := exists_property_of_clean hm hboth.1
      obtain ⟨hcalled, hpassed⟩ := ih (h := (b.property h m).2) hms hboth.2
      have hrecorded : p ∈ (b.properties h (m :: ms)).1 := mem_properties_cons.mpr (.inl hp)
      have hlater {r : PropertyMapping} (hr : r ∈ (b.properties (b.property h m).2 ms).1) :
          r ∈ (b.properties h (m :: ms)).1 := mem_properties_cons.mpr (.inr hr)
      have hgrow := (properties_supplied (b := b) (h := (b.property h m).2) hms).1
      refine ⟨fun i hi => ?_, fun q hq => ?_⟩
      · rcases hcalled i hi with hi | ⟨r, hr, hi⟩
        · exact (hfirst i hi).imp_right fun hi => ⟨p, hrecorded, hi⟩
        · exact .inr ⟨r, hlater hr, hi⟩
      · rcases hpassed q hq with hq | hi | ⟨r, hr, hq⟩
        · rcases hparameters q hq with hq | ⟨i, hi, hq⟩ | hq
          · exact .inl hq
          · exact .inr (.inl ⟨i, hgrow.resolvers hi, hq⟩)
          · exact .inr (.inr ⟨p, hrecorded, hq⟩)
        · exact .inr (.inl hi)
        · exact .inr (.inr ⟨r, hlater hr, hq⟩)

end Builder

/-! ## 4. Mappings -/

namespace Mapping

variable {c : BuildContext} {id : MappingId} {m n : Mapping}

/-- **A mapping whose helpers are those for the properties of pairs** is equipped for them, if it has
no error only where these have none. -/
theorem equips_of_properties {b : Builder} {ms : List PropertyMatch}
    (hms : ∀ p ∈ ms, p.source ≠ [])
    (hhelpers : (b.properties Helpers.none ms).2.1 = ⟨n.resolvers, n.localParameters⟩)
    (hvalid : n.isValid = true →
      Diagnostic.hasErrors (b.properties Helpers.none ms).2.2 = false) :
    n.Equips b.schema (b.properties Helpers.none ms).1 := by
  have hsound := b.sound_properties ms
  have hsupplied := (Builder.properties_supplied (b := b) (h := Helpers.none) hms).2
  have hused := fun hv => Builder.properties_used hms (hvalid hv)
  rw [hhelpers] at hsound hsupplied hused
  refine ⟨hsound.paths, fun p hp c hc => ?_, fun i hi => ?_, fun p hp c hc a ha => ?_, hsound.keys,
    fun hv i hi => ?_, fun hv q hq => ?_⟩
  · obtain ⟨i, hi, hname, hpath⟩ := hsupplied p hp _ hc
    refine ⟨i, hi, hpath, fun j hj => ⟨fun hj' => ?_, fun hj' => hj' ▸ hname⟩⟩
    exact List.inj_on_of_nodup_map hsound.idents hj hi (hj'.trans hname.symm)
  · obtain ⟨r, hr, htakes⟩ := hsound.made i hi
    exact ⟨r, hr, htakes, hsound.taken i hi⟩
  · obtain ⟨q, hq, hkey⟩ := EntryParameter.isIn_iff.mp (hsupplied p hp _ hc a ha)
    exact Helpers.eq_of_key_eq rfl (hsound.unrenamed q hq) hkey ▸ hq
  · exact ((hused hv).1 i hi).resolve_left List.not_mem_nil
  · exact ((hused hv).2 q hq).resolve_left List.not_mem_nil

/-- **Building a mapping equips it for the properties that it adds**, whatever the schema, the
settings and the declared mappings are: nothing is missing, and without errors nothing is left
over. -/
theorem equips_of_build (h : m.build c id = .ok n) :
    ∃ ps, n.properties = m.properties ++ ps ∧ n.Equips c.schema ps := by
  obtain ⟨source, destination, rfl⟩ := eq_buildFrom_of_build h
  refine ⟨_, rfl, equips_of_properties (b := ⟨c, m.key, id⟩)
    (fun p hp => Sides.source_ne_nil_of_mem_pairs hp) rfl fun hv => ?_⟩
  have hclean := (Bool.not_eq_true' _).mp hv
  simp only [buildFrom, Diagnostic.hasErrors_append, Bool.or_eq_false_iff] at hclean
  exact hclean.2

/-- A contact whose names one resolver trims, that of the contact and those of its friends. The
resolver is built from a language and a width that it has a default for, and a method of the contact
takes a mark beside its note. -/
def contactContext : BuildContext :=
  ⟨Schema.ofLists
    [{ type "app::Contact"
        [⟨"name", text, false, ⟨true, true⟩, [⟨.useResolver "text::Trim", none⟩]⟩,
          ⟨"friends", .collection .list text false, false, ⟨true, true⟩,
            [⟨.useResolver "text::Trim", none⟩]⟩,
          ⟨"note", text, false, ⟨true, true⟩, [⟨.useMethod "signed", none⟩]⟩] with
        methods := [⟨"signed", [⟨"value", text, false⟩, ⟨"mark", text, false⟩], text, false⟩] },
      type "view::Contact"
        [⟨"name", text, false, ⟨true, true⟩, []⟩,
          ⟨"friends", .collection .list text false, false, ⟨true, true⟩, []⟩,
          ⟨"note", text, false, ⟨true, true⟩, []⟩]]
    [⟨"text::Trim", [⟨"language", text, false⟩, ⟨"width", .scalar "u32" true false, true⟩],
      text, text, false⟩], Config.standard, []⟩
where
  /-- A text. -/
  text : TypeRef := .scalar "String" false false
  /-- A type without directives and methods. -/
  type (path : String) (properties : List Property) : TypeDecl :=
    ⟨path, none, false, true, properties, [], []⟩

/-- One instance serves the name and the friends, and only what has no default is a parameter. -/
theorem equips_of_contact : ∃ n,
    (declare ⟨"app::Contact", "view::Contact"⟩ none "app::Contact").build contactContext 0 = .ok n ∧
    (n.isValid, n.resolvers.map ResolverInstance.ident, n.localParameters.map EntryParameter.name,
        n.properties.map fun p => p.strategies.map Strategy.kind) =
      (true, ["trim"], ["trim_language", "mark"], [["resolver"], ["resolver"], ["method"]]) ∧
    ∃ ps, n.properties = [] ++ ps ∧ n.Equips contactContext.schema ps := by
  have hbuilt : ((declare ⟨"app::Contact", "view::Contact"⟩ none "app::Contact").build
      contactContext 0).toOption.map (fun n => (n.isValid, n.resolvers.map ResolverInstance.ident,
        n.localParameters.map EntryParameter.name,
        n.properties.map fun p => p.strategies.map Strategy.kind)) =
      some (true, ["trim"], ["trim_language", "mark"],
        [["resolver"], ["resolver"], ["method"]]) := by
    decide +kernel
  obtain ⟨n, hn, hfound⟩ := Option.map_eq_some_iff.mp hbuilt
  have hn := eq_ok_of_toOption hn
  exact ⟨n, hn, hfound, equips_of_build hn⟩

end Mapping

end TypeMapper
