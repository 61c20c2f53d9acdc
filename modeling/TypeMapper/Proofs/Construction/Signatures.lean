import TypeMapper.Proofs.Construction.Outputs
import TypeMapper.Proofs.Construction.Suitability
/-!
# The signatures of helpers

A directive names a method or a resolver for the whole value of a property, for the elements of a
collection or for the values of a map. A method is looked up by the types of that slot, and both are
checked against its destination; so wherever a helper is put, its declaration is for the types that
stand there. What a resolver takes is not asked.

* `Strategy.Declared`: the declaration that a call is made from.
* `Strategy.Converts`: the declaration is for the types of a slot.
* `PropertyMapping.Converts`: so it is for all strategies of a property, and where they are.
* `PropertyBuilder.findMethod_declared`, `explicit_declared`: what is looked up.
* `Mapping.converts_of_build`: the properties that building a mapping adds.
-/

namespace TypeMapper

/-! ## 1. Declarations -/

namespace Strategy

/-- The helper that is called is declared with the types of the call: a method on one of the types
that a mapping is for or on one of their bases, with a parameter for the subject; a resolver in the
schema. -/
def Declared (s : Schema) (key : MappingKey) : Strategy → Prop
  | .delegate _ => True
  | .method c => ∃ t ∈ s.chain key.source ++ s.chain key.destination, ∃ m ∈ t.methods,
      t.path = c.owner ∧ m.name = c.name ∧ m.subject?.map Parameter.ty = some c.subject ∧
        m.returns = c.returns
  | .resolver c => ∃ r, s.resolver? c.path = some r ∧ r.source = c.source ∧
      r.destination = c.destination

/-- A strategy takes the subject of a slot: a method one of the shape of its source type. -/
def TakesSubject (source : TypeRef) (st : Strategy) : Prop :=
  ∀ c, st = .method c → c.subject.sameShape source = true

/-- The helper that is called is declared for the types of a slot. -/
structure Converts (s : Schema) (key : MappingKey) (ignoreNull : Bool)
    (source destination : TypeRef) (st : Strategy) : Prop where
  declared : st.Declared s key
  takes : st.TakesSubject source
  shape : ∀ out ∈ st.output?, out.sameShape destination = true
  /-- Only where absent values are accepted may one be made for what is always there. -/
  absent : ∀ out ∈ st.output?, out.nullable = true → destination.nullable = false →
    ignoreNull = true

theorem Declared.converts {s : Schema} {key : MappingKey} {ignoreNull : Bool}
    {source destination : TypeRef} {st : Strategy} (h : st.Declared s key)
    (htakes : st.TakesSubject source) (hyields : st.Yields ignoreNull destination) :
    st.Converts s key ignoreNull source destination := by
  refine ⟨h, htakes, fun out hout => (hyields out hout).1, fun out hout hnull hdest => ?_⟩
  exact ((hyields out hout).2 hnull).resolve_left (Bool.eq_false_iff.mp hdest)

/-- Another mapping is no helper. -/
theorem converts_delegate (s : Schema) (key : MappingKey) (ignoreNull : Bool)
    (source destination : TypeRef) (c : DelegateCall) :
    (delegate c).Converts s key ignoreNull source destination :=
  Declared.converts trivial nofun (yields_delegate _ _ c)

end Strategy

/-- The slots that a helper is put on: those of elements and of map values. -/
def Shape.helperSlots : Shape → List ElementMapping
  | .collection _ _ e => [e]
  | .map _ _ v => [v]
  | _ => []

/-- The helpers of a property are declared for the types of the slots that they are put on. -/
structure PropertyMapping.Converts (s : Schema) (key : MappingKey) (p : PropertyMapping) :
    Prop where
  whole : ∀ st ∈ p.strategy, st.Converts s key p.ignoreNull p.terminal.ty p.destination.ty
  slots : ∀ e ∈ p.shape.elements, ∀ st ∈ e.strategy,
    st.Converts s key p.ignoreNull e.source e.destination
  /-- The slots are for the parts of the types of both ends. -/
  between : p.shape.Between p.terminal.ty p.destination.ty
  /-- No helper is put on a map key or on a part of a tuple. -/
  helpers : ∀ e ∈ p.shape.elements, ∀ st ∈ e.strategy, st.needsHelper = true →
    e ∈ p.shape.helperSlots

/-! ## 2. What is looked up -/

theorem matchingMethods_subset (cs : List (TypeDecl × Method)) (subject returns : TypeRef) :
    PropertyBuilder.matchingMethods cs subject returns ⊆ cs := by
  unfold PropertyBuilder.matchingMethods
  dsimp only
  split
  · exact fun _ hq => (List.mem_filter.mp (List.mem_filter.mp hq).1).1
  · exact List.filter_subset_self cs

namespace PropertyBuilder

variable {b : PropertyBuilder} {h : Helpers} {source destination : TypeRef}

/-- The methods of a name are declared along the chains of both types. -/
theorem exists_of_mem_methodCandidates {name : String} {q : TypeDecl × Method}
    (hq : q ∈ b.methodCandidates name) :
    q.1 ∈ b.schema.chain b.key.source ++ b.schema.chain b.key.destination ∧
      q.2 ∈ q.1.methods ∧ q.2.name = name := by
  have hnamed {path : String} (hpath : q ∈ b.schema.methodsNamed path name) :
      q.1 ∈ b.schema.chain path ∧ q.2 ∈ q.1.methods ∧ q.2.name = name := by
    obtain ⟨t, ht, hq⟩ := List.mem_flatMap.mp hpath
    obtain ⟨m, hm, rfl⟩ := List.mem_map.mp hq
    obtain ⟨hm, hname⟩ := List.mem_filter.mp hm
    exact ⟨ht, hm, beq_iff_eq.mp hname⟩
  rcases List.mem_append.mp hq with hq | hq
  · exact (hnamed hq).imp_left (List.mem_append_left _)
  · split at hq
    · cases hq
    · exact (hnamed hq).imp_left (List.mem_append_right _)

/-- **A method that is looked up** is declared, with a subject of the shape of the source type. -/
theorem findMethod_declared (name : String) :
    Gives (fun st : Strategy => st.Declared b.schema b.key ∧ st.TakesSubject source)
      (b.findMethod h name source destination).1 := by
  intro st hst
  have htakes : st.Accepts source destination := findMethod_suits name st hst
  revert hst
  unfold findMethod
  dsimp only
  split
  · exact nofun
  · split
    · exact nofun
    · rename_i owner m hmatching
      rintro ⟨⟩
      have hmem : (owner, m) ∈ matchingMethods (b.methodCandidates name) source destination :=
        hmatching ▸ List.mem_cons_self
      obtain ⟨hchain, hmethod, hname⟩ :=
        exists_of_mem_methodCandidates (matchingMethods_subset _ _ _ hmem)
      have hsubject := takes_of_mem_matchingMethods hmem
      refine ⟨⟨owner, hchain, m, hmethod, rfl, rfl, ?_, rfl⟩, fun c hc => ?_⟩
      · show _ = some ((m.subject?.map Parameter.ty).getD source)
        unfold takes at hsubject
        cases hparameter : m.subject? with
        | none => simp [hparameter] at hsubject
        | some p => rfl
      · obtain rfl := Strategy.method.inj hc
        exact htakes
    · exact nofun

/-- **What a directive names** is declared, and takes the subject of its slot. -/
theorem explicit_declared (b : PropertyBuilder) (h : Helpers) (c : Conversion)
    (source destination : TypeRef) :
    Gives (fun st : Strategy => st.Declared b.schema b.key ∧
        st.TakesSubject (b.givenSlot source destination).1)
      (b.explicit h c source destination).1 := by
  cases c with
  | resolver path =>
      unfold explicit
      dsimp only
      split
      · rename_i r hr
        have hcall : (h.resolver r).1.path = r.path ∧ (h.resolver r).1.source = r.source ∧
            (h.resolver r).1.destination = r.destination := by
          unfold Helpers.resolver
          split <;> exact ⟨rfl, rfl, rfl⟩
        refine gives_ok ⟨⟨r, ?_, hcall.2.1.symm, hcall.2.2.symm⟩, nofun⟩
        obtain ⟨-, hpath⟩ := Catalog.mem_and_key_of_find? hr
        rw [hcall.1, hpath]
        exact hr
      · exact gives_error _
  | method name => exact findMethod_declared name
  | mapper p q =>
      unfold explicit
      dsimp only
      split
      · exact gives_error _
      · exact gives_ok ⟨trivial, nofun⟩

end PropertyBuilder

/-! ## 3. Properties -/

/-- Where only `G` may hold of helpers, they are put on the slots that are given a strategy. -/
theorem Shape.Places.mem_helperSlots {G : TypeRef → TypeRef → Strategy → Prop} {sh : Shape}
    (h : sh.Places (fun _ _ st => st.needsHelper = false) G) {e : ElementMapping}
    (he : e ∈ sh.elements) {st : Strategy} (hst : st ∈ e.strategy)
    (hhelper : st.needsHelper = true) : e ∈ sh.helperSlots := by
  cases sh with
  | scalar => exact he
  | collection k j el => exact he
  | map k key value =>
      rcases List.mem_cons.mp he with rfl | he
      · exact absurd (hhelper.symm.trans (h.1 st hst)) Bool.noConfusion
      · exact he
  | tuple es => exact absurd (hhelper.symm.trans (h e he st hst)) Bool.noConfusion

namespace Builder

/-- **The helpers of the property of a pair** are declared for the types of their slots. -/
theorem property_converts (b : Builder) (h : Helpers) (m : PropertyMatch) :
    Gives (PropertyMapping.Converts b.schema b.key) (b.property h m).1 := by
  intro p hp
  obtain ⟨-, hignore, -⟩ := b.property_fields h m p hp
  have hdelegates : ∀ a d (st : Strategy), st.needsHelper = false →
      st.Converts b.schema b.key m.directives.ignoreNull a d := fun a d st hst => by
    cases st with
    | delegate c => exact Strategy.converts_delegate _ _ _ a d c
    | method c => cases hst
    | resolver c => cases hst
  have hplaces : p.Places (fun _ _ st => st.needsHelper = false)
      (fun a d st => st.Converts b.schema b.key m.directives.ignoreNull a d) := by
    refine property_places (fun _ _ _ _ => rfl) hdelegates (fun c _ source => ?_) p hp
    refine ((b.forPair m).explicit_declared h c source m.destination.ty).imp fun st hst => ?_
    exact (PropertyBuilder.checkOutput_yields st).imp fun _ hyields => hst.1.converts hst.2 hyields
  rw [← hignore] at hplaces hdelegates
  exact ⟨hplaces.whole, hplaces.slots.elements hdelegates, (b.property_gives h m p hp).between,
    fun e he st => hplaces.slots.mem_helperSlots he⟩

end Builder

namespace Mapping

variable {c : BuildContext} {id : MappingId} {m n : Mapping}

/-- **Building a mapping adds only properties whose helpers are declared for the types of their
slots**, whatever the schema, the settings and the declared mappings are. -/
theorem converts_of_build (h : m.build c id = .ok n) :
    ∃ ps, n.properties = m.properties ++ ps ∧ ∀ p ∈ ps, p.Converts c.schema m.key := by
  obtain ⟨ps, hps, hpairs⟩ := exists_properties_of_build h
  refine ⟨ps, hps, fun p hp => ?_⟩
  obtain ⟨k, pair, -, hprop⟩ := hpairs p hp
  exact Builder.property_converts _ k pair p hprop

/-- An order with labels and rates, which helpers make of its tags and prices one by one, and with a
note, which a method makes of the whole text and may leave out. -/
def orderContext : BuildContext :=
  ⟨Schema.ofLists
    [{ type "app::Order"
        [⟨"tags", .collection .list text false, false, ⟨true, true⟩, [⟨.useMethod "label", none⟩]⟩,
          ⟨"prices", .map .hash text number false, false, ⟨true, true⟩,
            [⟨.useResolver "app::Rate", none⟩]⟩,
          ⟨"note", text, false, ⟨true, true⟩,
            [⟨.useMethod "clean", none⟩, ⟨.ignoreNullIncompatibility, none⟩]⟩] with
        methods := [method "label" number label, method "label" text label,
          method "clean" text (.scalar "String" false true)] },
      type "view::Order"
        [⟨"tags", .collection .array label false, false, ⟨true, true⟩, []⟩,
          ⟨"prices", .map .btree text rate false, false, ⟨true, true⟩, []⟩,
          ⟨"note", text, false, ⟨true, true⟩, []⟩]]
    [⟨"app::Rate", [], number, rate, false⟩], Config.standard, []⟩
where
  /-- A text. -/
  text : TypeRef := .scalar "String" false false
  /-- A number. -/
  number : TypeRef := .scalar "u32" true false
  /-- What a tag becomes. -/
  label : TypeRef := .scalar "Label" false false
  /-- What a price becomes. -/
  rate : TypeRef := .scalar "f64" true false
  /-- A method of one parameter. -/
  method (name : String) (subject returns : TypeRef) : Method :=
    ⟨name, [⟨"value", subject, false⟩], returns, false⟩
  /-- A type without directives and methods. -/
  type (path : String) (properties : List Property) : TypeDecl :=
    ⟨path, none, false, true, properties, [], []⟩

/-- The method for texts is put on the tags, not the one for numbers; the resolver is put on the
prices and not on their names; and the note may be left out, as absent values are accepted. -/
theorem converts_of_order : ∃ n,
    (declare ⟨"app::Order", "view::Order"⟩ none "app::Order").build orderContext 0 = .ok n ∧
    n.properties.map (fun p => (p.strategy.map Strategy.kind,
        p.shape.elements.map fun e => e.strategy.map Strategy.kind, p.ignoreNull)) =
      [(none, [some "method"], false), (none, [none, some "resolver"], false),
        (some "method", [], true)] ∧
    ∃ ps, n.properties = [] ++ ps ∧
      ∀ p ∈ ps, p.Converts orderContext.schema ⟨"app::Order", "view::Order"⟩ := by
  have hbuilt : ((declare ⟨"app::Order", "view::Order"⟩ none "app::Order").build orderContext 0
      ).toOption.map (fun n => n.properties.map fun p => (p.strategy.map Strategy.kind,
        p.shape.elements.map fun e => e.strategy.map Strategy.kind, p.ignoreNull)) =
      some [(none, [some "method"], false), (none, [none, some "resolver"], false),
        (some "method", [], true)] := by
    decide +kernel
  obtain ⟨n, hn, hkinds⟩ := Option.map_eq_some_iff.mp hbuilt
  have hn := eq_ok_of_toOption hn
  exact ⟨n, hn, hkinds, converts_of_build hn⟩

end Mapping

end TypeMapper
