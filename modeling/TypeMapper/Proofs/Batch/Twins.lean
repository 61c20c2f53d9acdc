import TypeMapper.Proofs.Arena.Part
import TypeMapper.Proofs.Batch.Discovery
import TypeMapper.Proofs.Generation
import TypeMapper.Proofs.Matching.Twins
import TypeMapper.Proofs.Routine.Shown
import TypeMapper.Proofs.TypeRef
/-!
# Plain copies

A mapping between two types that hold the same takes each property over as it is. No phase has
anything to report on it, and the routine of its module reads every field of the destination from
the field of the same name: a property that may be absent is not taken apart to be put together
again.

* `Mapping.TakesOver`: a mapping that takes every property over, as far as a phase has come.
* `Schema.Twins.exists_takesOver`: the mapping of two such types at the end of a batch.
* `Property.IsRead`: the plain read of a property.
* `PrimaryRoutine.MakesOnly`: a routine that makes its destination and does nothing else.
* `Batch.CopiesPlainly`, `Batch.copiesPlainly_of_twins`: what a run makes of them.
-/

namespace TypeMapper

variable {s : Schema} {t u : TypeDecl} {c : Config}

/-! ## 1. Properties -/

/-- The mapping that takes a property over as it is; an absent value stays absent. -/
def Property.taken (p q : Property) : PropertyMapping :=
  ⟨[{ Hop.ofProperty p with onNull := if p.nullable then some .propagate else none }],
    PropertyEnd.ofProperty q, none, .scalar, false, none⟩

/-- A property mapping that takes a property over to one that is alike. -/
def PropertyMapping.TakesOver (p : Property) (m : PropertyMapping) : Prop :=
  ∃ q, p.Alike q ∧ m = p.taken q

namespace PropertyBuilder

/-- Values of a type that is taken over are copied. -/
theorem structural_of_takesOver {b : PropertyBuilder} {ty : TypeRef} (h : s.TakesOver ty)
    (hdeclared : ∀ key ∈ b.declared, ∃ d ∈ s.candidates, d.key = key) :
    b.structural ty ty = .ok .copy := by
  have hparts : isShaped ty ty = false ∧ b.declaredPair? ty ty = none := by
    cases ty with
    | scalar name byValue nullable => exact ⟨rfl, rfl⟩
    | object path nullable =>
        have hno : ¬ b.declared.contains ⟨path, path⟩ = true := fun hmem => by
          obtain ⟨d, hd, hkey⟩ := hdeclared _ (List.contains_iff_mem.mp hmem)
          exact h d hd hkey
        exact ⟨rfl, if_neg hno⟩
    | collection _ _ _ | map _ _ _ _ | tuple _ _ => exact h.elim
  obtain ⟨hshaped, hpair⟩ := hparts
  rw [structural, hshaped, hpair, TypeRef.sameShape_refl]
  rfl

end PropertyBuilder

namespace Builder

variable {b : Builder} {h : Helpers} {p : Property} {ps : List Property} {m : PropertyMatch}
  {ms : List PropertyMatch}

/-- **A pair that takes a property over** needs no helper and is built without a report. -/
theorem property_takesOver (hm : m.TakesOver p) (htype : s.TakesOver p.ty)
    (hdeclared : ∀ key ∈ b.declared, ∃ d ∈ s.candidates, d.key = key) :
    ∃ n, b.property h m = (.ok n, h) ∧ n.TakesOver p := by
  obtain ⟨q, hpq, rfl⟩ := hm
  refine ⟨p.taken q, ?_, q, hpq, rfl⟩
  have hplan (b' : PropertyBuilder) (hb : b'.declared = b.declared)
      (hd : b'.directives = PropertyDirectives.none) :
      b'.plan h (Hop.ofProperty p).ty (PropertyEnd.ofProperty q).ty = (.ok .copy, h) := by
    have hty : (PropertyEnd.ofProperty q).ty = (Hop.ofProperty p).ty := hpq.ty
    rw [PropertyBuilder.plan, hd, hty, ← PropertyBuilder.structural_of_takesOver htype
      (hb ▸ hdeclared)]
    rfl
  have hhops (b' : PropertyBuilder) :
      b'.hopPolicies .copy (PropertyEnd.ofProperty q) [] ([p].map Hop.ofProperty) =
        .ok [{ Hop.ofProperty p with onNull := if p.nullable then some .propagate else none }] := by
    have hend : (PropertyEnd.ofProperty q).nullable = p.nullable := congrArg TypeRef.nullable hpq.ty
    have hhop : (Hop.ofProperty p).nullable = p.nullable := rfl
    have hchain : [p].map Hop.ofProperty = [Hop.ofProperty p] := rfl
    rw [hchain]
    unfold PropertyBuilder.hopPolicies PropertyBuilder.hopPolicy
    rw [hend, hhop]
    cases p.nullable <;> rfl
  have hlast : ([p].map Hop.ofProperty).getLast? = some (Hop.ofProperty p) := rfl
  unfold property
  dsimp only
  rw [hlast]
  dsimp only
  rw [hplan _ rfl rfl]
  dsimp only
  rw [hhops]
  rfl

/-- The pairs of twins, one by one. -/
theorem properties_takesOver (hms : List.Forall₂ PropertyMatch.TakesOver ps ms)
    (htypes : ∀ p ∈ ps, s.TakesOver p.ty)
    (hdeclared : ∀ key ∈ b.declared, ∃ d ∈ s.candidates, d.key = key) :
    ∃ ns, b.properties h ms = (ns, h, []) ∧ List.Forall₂ PropertyMapping.TakesOver ps ns := by
  induction hms with
  | nil => exact ⟨[], rfl, .nil⟩
  | cons hm _ ih =>
      obtain ⟨htype, htypes⟩ := List.forall_mem_cons.mp htypes
      obtain ⟨n, hn, htaken⟩ := property_takesOver (h := h) hm htype hdeclared
      obtain ⟨ns, hns, hall⟩ := ih htypes
      refine ⟨n :: ns, ?_, .cons htaken hall⟩
      rw [properties, hn]
      dsimp only
      rw [hns]
      rfl

end Builder

/-! ## 2. Phases -/

/-- **A mapping that takes every property over**, and that nothing is reported on. -/
structure Mapping.TakesOver (t u : TypeDecl) (m : Mapping) : Prop where
  key : m.key = ⟨t.path, u.path⟩
  properties : List.Forall₂ PropertyMapping.TakesOver t.properties m.properties
  resolvers : m.resolvers = []
  localParameters : m.localParameters = []
  leftovers : m.leftovers = []
  unclaimed : m.unclaimed = []
  diagnostics : m.diagnostics = []

namespace Mapping.TakesOver

variable {m : Mapping}

theorem strategies_eq_nil (h : m.TakesOver t u) : m.strategies = [] := by
  refine List.flatMap_eq_nil_iff.mpr fun n hn => ?_
  obtain ⟨p, -, q, -, rfl⟩ := exists_of_mem_right h.properties hn
  rfl

theorem delegates_eq_nil (h : m.TakesOver t u) : m.delegates = [] := by
  rw [delegates, h.strategies_eq_nil]
  rfl

theorem targets_eq_nil (h : m.TakesOver t u) : m.targets = [] := by
  rw [targets, h.delegates_eq_nil]
  rfl

theorem isValid (h : m.TakesOver t u) : m.isValid = true := by
  rw [Mapping.isValid, h.diagnostics]
  rfl

/-- The checks have nothing to say. -/
theorem check_eq_nil (h : m.TakesOver t u) (hne : t.properties ≠ []) : m.check c = [] := by
  have hnames : m.nameReports = [] := by
    rw [nameReports, h.leftovers, h.unclaimed]
    rfl
  have hempty : m.emptyReports = [] := by
    have hsome : m.properties.isEmpty = false := by
      rw [List.isEmpty_eq_false_iff]
      rintro hnil
      exact hne (List.forall₂_nil_right_iff.mp (hnil ▸ h.properties))
    rw [emptyReports, hsome]
    rfl
  have hproperties : (m.properties.flatMap fun p => m.unboundReports p ++ m.omissionReports c p) =
      [] := by
    refine List.flatMap_eq_nil_iff.mpr fun n hn => ?_
    obtain ⟨p, -, q, -, rfl⟩ := exists_of_mem_right h.properties hn
    rw [omissionReports, show (p.taken q).needsHelper = false from rfl, Bool.and_false]
    rfl
  rw [check, hnames, hempty, hproperties]
  rfl

end Mapping.TakesOver

/-- Resolution changes nothing in a mapping that calls no other. -/
theorem Mapping.TakesOver.mapDelegates {m : Mapping} (h : m.TakesOver t u)
    (g : DelegateCall → DelegateCall) (flag : Bool) :
    ((m.mapDelegates g).withAsync flag).TakesOver t u := by
  have hsame : m.mapDelegates g = m := by
    have hid : m.mapDelegates g = m.mapDelegates id :=
      Mapping.mapDelegates_congr fun d hd => absurd (h.delegates_eq_nil ▸ hd) List.not_mem_nil
    rw [hid, Mapping.mapDelegates_id]
  rw [hsame]
  exact ⟨h.key, h.properties, h.resolvers, h.localParameters, h.leftovers, h.unclaimed,
    h.diagnostics⟩

namespace Schema.Twins

/-- The pair of twins is declared. -/
theorem exists_declared (h : s.Twins t u) : ∃ id index path,
    s.declared.get? id = some (Mapping.declare ⟨t.path, u.path⟩ index path) := by
  obtain ⟨index, hindex⟩ := h.declares
  have hknown : s.KnowsBoth ⟨t.path, u.path⟩ :=
    ⟨by rw [hasType, h.source]; rfl, by rw [hasType, h.destination]; rfl⟩
  have hdeclared : (⟨t.path, 0, ⟨.mapTo u.path, index⟩, ⟨t.path, u.path⟩⟩ : Declaration) ∈
      s.declarations :=
    mem_declarations_iff.mpr ⟨t, h.source, by rw [hindex]; rfl, rfl⟩
  -- which declaration of the pair comes first does not matter here
  obtain ⟨d, hd, hkey⟩ := exists_leading_iff.mpr ⟨hknown, _, hdeclared, rfl⟩
  have hmem : d.candidate.declare ∈ s.declared.mappings := by
    rw [s.declareAll_candidates.1]
    exact List.mem_map_of_mem (f := fun d => d.candidate.declare) hd
  obtain ⟨id, hid⟩ := Arena.exists_get?_of_mem hmem
  exact ⟨id, d.entry.index, d.path, hkey ▸ hid⟩

/-- **Construction takes every property over.** -/
theorem takesOver_buildFrom (h : s.Twins t u) (id : MappingId) (index : Option UInt32)
    (path : String) : ((Mapping.declare ⟨t.path, u.path⟩ index path).buildFrom (s.context c) id t
      u).TakesOver t u := by
  have hmatching : (matchProperties (s.context c).schema ⟨t.path, u.path⟩ index).TakesOver
      t.properties := matchProperties_twins h index
  have hdeclared : ∀ key ∈ (s.context c).declared, ∃ d ∈ s.candidates, d.key = key := by
    intro key hkey
    obtain ⟨m, hm, rfl⟩ := List.mem_map.mp hkey
    obtain ⟨i, hi⟩ := Arena.exists_get?_of_mem hm
    obtain ⟨d, hd, rfl⟩ := get?_declared hi
    exact ⟨d, hd, rfl⟩
  obtain ⟨ns, hns, hall⟩ := Builder.properties_takesOver
    (b := ⟨s.context c, ⟨t.path, u.path⟩, id⟩) (h := Helpers.none) hmatching.pairs h.types hdeclared
  have hconstructor : constructorReports u = [] := if_pos h.constructible
  unfold Mapping.buildFrom
  dsimp only [Mapping.declare]
  rw [hns, hmatching.reports, hconstructor]
  exact ⟨rfl, hall, rfl, rfl, hmatching.leftovers, hmatching.unclaimed, rfl⟩

/-- Resolution leaves the mapping of twins alone. -/
theorem exists_resolved (h : s.Twins t u) (c : Config) :
    ∃ id m, (s.resolved c).get? id = some m ∧ m.TakesOver t u := by
  obtain ⟨id, index, path, hdeclared⟩ := h.exists_declared
  obtain ⟨source, destination, hs, hd, hbuilt⟩ := get?_built_of_declared (c := c) hdeclared
  obtain rfl : t = source := Option.some.inj (h.source.symm.trans hs)
  obtain rfl : u = destination := Option.some.inj (h.destination.symm.trans hd)
  obtain ⟨g, -, hg⟩ := Arena.resolve_eq (s.selfBound_built c)
  have hresolved := Arena.get?_resolve hg id
  rw [hbuilt, Option.map_some] at hresolved
  exact ⟨id, _, hresolved, (h.takesOver_buildFrom id index path).mapDelegates (g id) _⟩

/-- The mapping of twins gets no parameters, and the checks find nothing. -/
theorem exists_checked (h : s.Twins t u) (c : Config) :
    ∃ id m, (s.checked c).get? id = some m ∧ m.TakesOver t u := by
  obtain ⟨id, m, hm, htaken⟩ := h.exists_resolved c
  have hparameters : (s.resolved c).entryParameters id = ⟨[], []⟩ := by
    refine Arena.entryParameters_of_not_needs fun owner p hneeds => ?_
    obtain ⟨x, hx, hget, hp⟩ := hneeds
    obtain rfl := Arena.eq_of_reaches hm htaken.targets_eq_nil hx
    obtain rfl := Option.some.inj (hm.symm.trans hget)
    exact List.not_mem_nil (htaken.localParameters ▸ hp)
  have hn : (m.withParameters ⟨[], []⟩).TakesOver t u := by
    refine ⟨htaken.key, htaken.properties, htaken.resolvers, htaken.localParameters,
      htaken.leftovers, htaken.unclaimed, ?_⟩
    show m.diagnostics ++ [] = []
    rw [htaken.diagnostics]
    rfl
  refine ⟨id, _, ?_, hn⟩
  rw [checked, Arena.get?_checkAll, Arena.get?_parameterize, hm, hparameters, Option.map_some,
    Option.map_some, hn.check_eq_nil h.nonempty, Mapping.report, List.append_nil]

/-- **The mapping of twins at the end of a batch** takes every property over, and nothing was
reported on it. -/
theorem exists_takesOver (h : s.Twins t u) (c : Config) :
    ∃ id m, (Batch.discover s c).arena.get? id = some m ∧ m.TakesOver t u := by
  obtain ⟨id, m, hm, htaken⟩ := h.exists_checked c
  have hclosure := Batch.discover_closure s c
  refine ⟨id, m, hclosure.kept id m hm fun hrejected => ?_, htaken⟩
  -- what reaches itself only is rejected for its own reports only
  obtain ⟨x, hx, hxrejected⟩ := (hclosure.rejected id).mp hrejected
  rwa [Arena.eq_of_reaches hm htaken.targets_eq_nil hx] at hxrejected

end Schema.Twins

/-! ## 3. Emission -/

/-- **The plain read of a property**: the field of its name is read from the source, as it is if the
property has value semantics and cloned otherwise. -/
structure Property.IsRead (p : Property) (f : String × Value) : Prop where
  name : Code.name? p.name = some f.1
  value : f.2 = .read (.field Emitter.sourcePlace f.1 p.nullable) p.byValue
  code : f.2.code = words ["source"] ++ op "." ++ words [f.1]
    ++ if p.byValue then [] else op "." ++ words ["clone"] ++ parens []

namespace Emitter

variable {e : Emitter} {p q : Property}

/-- A property that is taken over is read, whether it may be absent or not. -/
theorem property_taken (e : Emitter) (hpq : p.Alike q) : e.property (p.taken q) =
    (spelledName p.name).map fun n => .read (.field sourcePlace n p.nullable) p.byValue := by
  have hend : (p.taken q).destinationNullable = p.nullable := congrArg TypeRef.nullable hpq.ty
  have hsame : ((p.taken q).terminal.ty == (p.taken q).destination.ty) = true :=
    beq_iff_eq.mpr hpq.ty.symm
  have hdirect : isDirectCopy (p.taken q) = p.nullable := by
    rw [isDirectCopy, hend, hsame]
    show (true && p.nullable && p.nullable && true) = p.nullable
    cases p.nullable <;> rfl
  rw [property, hdirect]
  -- what may be absent is read at once; the rest goes along a chain of one link without a policy
  cases hnull : p.nullable with
  | true =>
      show (spelledName p.name >>= fun n =>
        .ok (Value.read (.field sourcePlace n p.nullable) p.byValue)) = _
      rw [hnull]
      cases spelledName p.name <;> rfl
  | false =>
      have hchain : (p.taken q).source = [Hop.ofProperty p] := by
        rw [Property.taken, hnull]
        rfl
      have hterminal (place : Place) (hplace : place.optional = false) :
          e.terminal (p.taken q) place = .ok (.read place p.byValue) := by
        have hoptional : (Value.read place p.byValue).optional = false := hplace
        show (Except.ok ((Value.read place p.byValue).fitted (p.taken q).destinationNullable) :
          Emit Value) = _
        unfold Value.fitted
        rw [hend, hnull, hoptional]
      have hhop : (Hop.ofProperty p).nullable = false := hnull
      show e.along (p.taken q) sourcePlace 0 (p.taken q).source = _
      rw [hchain]
      show (spelledName p.name >>= fun n =>
        e.terminal (p.taken q) (.field sourcePlace n (Hop.ofProperty p).nullable)) = _
      rw [hhop]
      cases spelledName p.name with
      | error o => rfl
      | ok n => exact hterminal (.field sourcePlace n false) rfl

/-- **The field of a property that is taken over** is the plain read of it. -/
theorem field_takesOver {m : PropertyMapping} (hm : m.TakesOver p) :
    Gives p.IsRead (e.field m) := by
  obtain ⟨q, hpq, rfl⟩ := hm
  have hname : (p.taken q).destination.name = p.name := hpq.name
  rw [field, hname, property_taken e hpq]
  unfold spelledName
  cases hspelled : Code.name? p.name with
  | none => exact gives_error _
  | some n =>
      refine gives_ok ⟨hspelled, rfl, ?_⟩
      show (Place.field sourcePlace n p.nullable).read p.byValue = _
      cases p.byValue
      · rfl
      · rfl

end Emitter

/-! ## 4. Plain copies -/

namespace PrimaryRoutine

variable {r : PrimaryRoutine}

/-- The tokens of the destination: its type, and in braces each field with its value. -/
def destinationCode (r : PrimaryRoutine) : Code :=
  r.destination.code ++ braces (r.fields.flatMap fun f =>
    words [f.1] ++ op ":" ++ f.2.code ++ op ",")

/-- The tokens that refuse an absent source, if there may be one. -/
def refusalCode (r : PrimaryRoutine) : Code :=
  if r.sourceByValue then []
  else words ["let", "Some"] ++ parens (words ["source"]) ++ op "=" ++ words ["source"] ++ op "."
    ++ words ["into"] ++ parens [] ++ words ["else"] ++ braces (words ["return", "Err"]
      ++ parens (Value.failureCode (.nullSource r.key)) ++ op ";") ++ op ";"

/-- The tokens of the result: the destination, which a hook may be given before. -/
def closingCode (r : PrimaryRoutine) : Code :=
  if r.callsHook then
    words ["let", "mut", "destination"] ++ op "=" ++ r.destinationCode ++ op ";"
      ++ rooted ["mapforge", "AfterMap"] ++ op "::" ++ op "<" ++ r.source.code ++ op ">" ++ op "::"
      ++ words ["after_map"]
      ++ parens (op "&" ++ words ["mut", "destination"] ++ op "," ++ words ["source"]) ++ op ";"
      ++ words ["Ok"] ++ parens (words ["destination"])
  else words ["Ok"] ++ parens r.destinationCode

/-- **The routine makes its destination of its fields and does nothing else**, but that it refuses
an absent source and calls a hook. -/
def MakesOnly (r : PrimaryRoutine) : Prop := ∃ doc generics source,
  r.code = r.functionCode doc generics source (r.refusalCode ++ r.closingCode)

theorem literal_code_eq (r : PrimaryRoutine) : r.literal.code = r.destinationCode := by
  have hfields (fields : List (String × Value)) : Value.fieldsCode fields =
      fields.flatMap fun f => words [f.1] ++ op ":" ++ f.2.code ++ op "," := by
    induction fields with
    | nil => rfl
    | cons f fields ih => rw [Value.fieldsCode, ih, List.flatMap_cons]
  show r.destination.code ++ braces (Value.fieldsCode r.fields ++ []) = _
  rw [hfields, List.append_nil, destinationCode]

/-- A routine without resolvers makes its destination and does nothing else. -/
theorem makesOnly_of_resolvers (h : r.resolvers = []) : r.MakesOnly := by
  refine ⟨_, _, _, r.code_eq.trans (congrArg (r.functionCode _ _ _) ?_)⟩
  rw [h, List.flatMap_nil, List.append_nil]
  congr 1
  · unfold sourceCode refusalCode
    split <;> simp [Value.call, Value.returnError]
  · unfold endCode closingCode
    rw [literal_code_eq]
    split <;> simp [Value.runtime, angles]

end PrimaryRoutine

/-- **A mapping that is a plain copy**: nothing was reported on it, every run that yields artifacts
yields one for it, and its routine reads each property of the source. -/
structure Batch.CopiesPlainly (b : Batch) (c : Config) (t u : TypeDecl) (p : MappingId × Mapping) :
    Prop where
  held : b.arena.get? p.1 = some p.2
  key : p.2.key = ⟨t.path, u.path⟩
  diagnostics : p.2.diagnostics = []
  artifact : ∀ xs, b.artifacts c = .ok xs → ∃ x ∈ xs, x.Renders b c p
  /-- The fields of the routine that is emitted are reads, one for each property and in order. -/
  reads : ∀ k, (b.emitter c p).module = .ok k →
    List.Forall₂ Property.IsRead t.properties k.primary.fields
  /-- The tokens of the routine end in the destination made of these fields. -/
  makes : ∀ k, (b.emitter c p).module = .ok k → k.primary.MakesOnly

namespace Batch

/-- **Two types that hold the same are copied plainly**, whatever the settings are. -/
theorem copiesPlainly_of_twins (h : s.Twins t u) (c : Config) :
    ∃ p, (discover s c).CopiesPlainly c t u p := by
  obtain ⟨id, m, hget, hm⟩ := h.exists_takesOver c
  refine ⟨(id, m), hget, hm.key, hm.diagnostics, fun xs hxs => ?_, fun k hk => ?_, fun k hk => ?_⟩
  · have hmem : (id, m) ∈ (discover s c).accepted :=
      mem_accepted_iff (p := (id, m)).mpr ⟨hget, hm.isValid⟩
    exact exists_renders hmem hxs
  · have hfields := (Emitter.primary_parts _ (Emitter.module_primary k hk)).fields
    exact gives_mapM_forall₂ hm.properties (fun _ _ => Emitter.field_takesOver) _ hfields
  · have hresolvers := (Emitter.primary_parts _ (Emitter.module_primary k hk)).resolvers
    have hnone : ((discover s c).emitter c (id, m)).mapping.resolvers = [] := hm.resolvers
    rw [hnone] at hresolvers
    exact PrimaryRoutine.makesOnly_of_resolvers (Except.ok.inj hresolvers).symm

/-- Items of a shop and their views, which hold the same: a text, a number, and a text and a maker
that may be absent. -/
def itemSchema : Schema := Schema.ofLists [item, view, maker] []
where
  /-- An item. -/
  item : TypeDecl :=
    ⟨"shop::Item", none, false, true, properties, [⟨.mapTo "view::Item", none⟩], []⟩
  /-- The view of an item. -/
  view : TypeDecl := ⟨"view::Item", none, false, true, properties, [], []⟩
  /-- A maker. -/
  maker : TypeDecl := ⟨"shop::Maker", none, false, true, [], [], []⟩
  /-- What both hold. -/
  properties : List Property :=
    [⟨"title", .scalar "String" false false, false, ⟨true, true⟩, []⟩,
      ⟨"price", .scalar "u32" true false, true, ⟨true, true⟩, []⟩,
      ⟨"note", .scalar "String" false true, false, ⟨true, true⟩, []⟩,
      ⟨"maker", .object "shop::Maker" true, false, ⟨true, true⟩, []⟩]

theorem itemSchema.twins : itemSchema.Twins item view where
  source := by decide +kernel
  destination := by decide +kernel
  sourceBase := rfl
  destinationBase := rfl
  constructible := rfl
  nonempty := List.cons_ne_nil _ _
  alike := List.forall₂_same.mpr fun _ _ => ⟨rfl, rfl⟩
  distinct := by decide
  types := by decide +kernel
  access := by decide
  bare := by decide
  declares := ⟨none, rfl⟩
  silent := .inr rfl

/-- The module for items comes out, and its fields are reads. -/
theorem copiesPlainly_of_items : itemSchema.Twins itemSchema.item itemSchema.view ∧
    ∃ p k, (discover itemSchema Config.standard).CopiesPlainly Config.standard itemSchema.item
        itemSchema.view p ∧
      ((discover itemSchema Config.standard).emitter Config.standard p).module = .ok k ∧
      List.Forall₂ Property.IsRead itemSchema.item.properties k.primary.fields := by
  have hreport : ((discover itemSchema Config.standard).artifacts Config.standard).toOption.map
      (fun xs => xs.map fun x => x.body.isSkipped) = some [false] := by
    decide +kernel
  obtain ⟨p, hp⟩ := copiesPlainly_of_twins itemSchema.twins Config.standard
  obtain ⟨xs, hxs, hfields⟩ := Option.map_eq_some_iff.mp hreport
  obtain ⟨x, hx, hrenders⟩ := hp.artifact xs (eq_ok_of_toOption hxs)
  have hskip : x.body.isSkipped ∈ xs.map fun x => x.body.isSkipped := List.mem_map_of_mem hx
  rcases hrenders.body with ⟨k, hk, -⟩ | ⟨e, -, -, hbody⟩
  · exact ⟨itemSchema.twins, p, k, hp, hk, hp.reads k hk⟩
  · rw [hfields, hbody, List.mem_singleton] at hskip
    cases hskip

end Batch

end TypeMapper
