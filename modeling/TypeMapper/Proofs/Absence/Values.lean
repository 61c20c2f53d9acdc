import TypeMapper.Proofs.Construction.Nullability
import TypeMapper.Routine.Value
/-!
# Values and the slots they fill

A generated expression is an option or not, and so is the slot that it is for. Which one an
expression is follows from what it reads: a place is judged by the properties that lead to it, a
call by what its helper says it returns, and everything else by its parts. Nothing of this looks at
what the generator itself notes about options.

* `Held`, `Place.held?`: what is known of the value at a place.
* `Value.Fills`: a value is an option exactly if its slot may be absent, and so is every value in
  it for a slot of its own.
* `Value.Fills.fitted`, `Value.fills_lifted_iff`: what is made to fit does.
* `PropertyMapping.At`: a place on the way along the links of a property.
-/

namespace TypeMapper

/-! ## 1. Places -/

/-- What is known of a value: its type, and the links by which one may read on from it. -/
structure Held where
  ty : TypeRef
  links : List Hop
  deriving DecidableEq, Repr

/-- The bindings that an expression may use, the innermost first. -/
abbrev Bindings := List (String × Held)

/-- What is known of the value at a place. One can read on only from a value that is there, by the
next link, or by the position in a tuple. -/
def Place.held? (Γ : Bindings) : Place → Option Held
  | .binding name _ => Γ.lookup name
  | .field base name _ =>
    match base.held? Γ with
    | some ⟨t, hop :: rest⟩ =>
      if t.nullable = false ∧ Code.name? hop.name = some name then some ⟨hop.ty, rest⟩ else none
    | _ => none
  | .position base i _ =>
    match base.held? Γ with
    | some ⟨.tuple ts false, []⟩ => ts[i]?.map fun t => ⟨t, []⟩
    | _ => none

/-- The type of the elements that one goes through; those that are absent may be left out. -/
def Items.held? (Γ : Bindings) (i : Items) : Option TypeRef :=
  match i.place.held? Γ with
  | some ⟨.collection _ e false, []⟩ =>
    if i.flattened then if e.nullable then some e.nonNull else none else some e
  | _ => none

@[simp] theorem Place.held?_binding_cons (Γ : Bindings) (name : String) (h : Held) (o : Bool) :
    (Place.binding name o).held? ((name, h) :: Γ) = some h := by
  simp [held?]

theorem Place.held?_binding_of_ne {Γ : Bindings} {name other : String} {h : Held} {o : Bool}
    (hne : name ≠ other) :
    (Place.binding name o).held? ((other, h) :: Γ) = (Place.binding name o).held? Γ := by
  simp [held?, List.lookup_cons, beq_eq_false_iff_ne.mpr hne]

/-- A link is read by the name that it is spelled with. -/
theorem Place.held?_field {Γ : Bindings} {base : Place} {t : TypeRef} {hop : Hop} {rest : List Hop}
    {name : String} {o : Bool} (hbase : base.held? Γ = some ⟨t, hop :: rest⟩)
    (ht : t.nullable = false) (hname : Code.name? hop.name = some name) :
    (Place.field base name o).held? Γ = some ⟨hop.ty, rest⟩ := by
  rw [held?, hbase]
  exact if_pos ⟨ht, hname⟩

theorem Place.held?_position {Γ : Bindings} {base : Place} {ts : List TypeRef} {i : Nat}
    {t : TypeRef} {o : Bool} (hbase : base.held? Γ = some ⟨.tuple ts false, []⟩)
    (ht : ts[i]? = some t) : (Place.position base i o).held? Γ = some ⟨t, []⟩ := by
  rw [held?, hbase]
  simp only [ht, Option.map_some]

/-! ## 2. Values -/

/-- A helper gets an option exactly if it takes one. -/
inductive Subject.Suits (Γ : Bindings) (takes : Bool) : Subject → Prop
  | borrowed {p t} : p.held? Γ = some ⟨t, []⟩ → t.nullable = takes → Suits Γ takes (.borrowed p)
  | present {p t byValue} : p.held? Γ = some ⟨t, []⟩ → t.nullable = false → takes = true →
      Suits Γ takes (.present p byValue)

/-- **A value fills a slot** of a type: it is an option exactly if the type says that the value may
be absent, in all of its cases, and every slot inside is filled as well. The strategies are those
that may be called, and the mappings of the arena are those whose literals may be written out. -/
inductive Value.Fills (a : Arena) : List Strategy → Bindings → TypeRef → Value → Prop
  | read {S Γ t p u byValue} : p.held? Γ = some ⟨u, []⟩ → u.nullable = t.nullable →
      Fills a S Γ t (.read p byValue)
  | absent {S Γ t} : t.nullable = true → Fills a S Γ t .absent
  /-- The default is one of the type that is wanted. -/
  | standard {S Γ t} : Fills a S Γ t .standard
  | present {S Γ t v} : t.nullable = true → Fills a S Γ t.nonNull v → Fills a S Γ t (.present v)
  | orStandard {S Γ t v} : t.nullable = false → Fills a S Γ (t.withNullable true) v →
      Fills a S Γ t (.orStandard v)
  | required {S Γ t v} : t.nullable = false → Fills a S Γ (t.withNullable true) v →
      Fills a S Γ t (.required v)
  /-- What leaves is not a value, and fits everywhere. -/
  | fail {S Γ t e} : Fills a S Γ t (.fail e)
  | dropEntry {S Γ t} : Fills a S Γ t .dropEntry
  | method {S Γ t c owner name subject arguments optional} : Strategy.method c ∈ S →
      Code.name? c.name = some name → subject.Suits Γ c.subject.nullable →
      c.returns.nullable = t.nullable →
      Fills a S Γ t (.method owner name subject arguments c.isAsync optional)
  | resolve {S Γ t c input output resolver subject optional} : Strategy.resolver c ∈ S →
      Code.name? c.instanceName = some resolver → subject.Suits Γ c.source.nullable →
      c.destination.nullable = t.nullable →
      Fills a S Γ t (.resolve input output resolver subject c.isAsync optional)
  | delegate {S Γ t c target routine own input u arguments isAsync} : Strategy.delegate c ∈ S →
      c.target = some target → input.held? Γ = some ⟨u, []⟩ → u.nullable = false →
      t.nullable = false → Fills a S Γ t (.delegate target routine own input arguments isAsync)
  | cases {S Γ t p u rest binding v otherwise} : p.held? Γ = some ⟨u, rest⟩ → u.nullable = true →
      Fills a S ((binding, ⟨u.nonNull, rest⟩) :: Γ) t v → Fills a S Γ t otherwise →
      Fills a S Γ t (.cases p binding v otherwise)
  | mapped {S Γ t p u rest binding v} : p.held? Γ = some ⟨u, rest⟩ → u.nullable = true →
      t.nullable = true → Fills a S ((binding, ⟨u.nonNull, rest⟩) :: Γ) t.nonNull v →
      Fills a S Γ t (.mapped p binding v)
  | chained {S Γ t p u rest binding v} : p.held? Γ = some ⟨u, rest⟩ → u.nullable = true →
      t.nullable = true → Fills a S ((binding, ⟨u.nonNull, rest⟩) :: Γ) t v →
      Fills a S Γ t (.chained p binding v)
  /-- Elements are copied as they are. -/
  | copies {S Γ k d items u byValue} : items.held? Γ = some u → u.nullable = d.nullable →
      Fills a S Γ (.collection k d false) (.copies items byValue k)
  | each {S Γ k d items u binding v gathering} : items.held? Γ = some u →
      Fills a S ((binding, ⟨u, []⟩) :: Γ) d v →
      Fills a S Γ (.collection k d false) (.each items binding v k gathering)
  | entries {S Γ j k p ks vs kd vd kb vb key value gathering} :
      p.held? Γ = some ⟨.map j ks vs false, []⟩ →
      Fills a S ((kb, ⟨ks, []⟩) :: (vb, ⟨vs, []⟩) :: Γ) kd key →
      Fills a S ((kb, ⟨ks, []⟩) :: (vb, ⟨vs, []⟩) :: Γ) vd value →
      Fills a S Γ (.map k kd vd false) (.entries p kb vb key value k gathering)
  | tuple {S Γ ts vs} : ts.length = vs.length → (∀ q ∈ ts.zip vs, Fills a S Γ q.1 q.2) →
      Fills a S Γ (.tuple ts false) (.tuple vs)
  /-- The literal of a mapping reads its input only, and needs no helper. -/
  | inlined {S Γ t target m depth binding input u type fields isOpen} :
      input.held? Γ = some ⟨u, []⟩ → u.nullable = false → t.nullable = false →
      a.get? target = some m →
      (m.properties.filter fun p => !p.needsHelper).length = fields.length →
      (∀ q ∈ (m.properties.filter fun p => !p.needsHelper).zip fields,
        Code.name? q.1.destination.name = some q.2.1) →
      (∀ q ∈ (m.properties.filter fun p => !p.needsHelper).zip fields,
        Fills a q.1.strategies [(binding, ⟨.object m.source false, q.1.source⟩)]
          q.1.destination.ty q.2.2) →
      Fills a S Γ t (.inlined target depth binding input (.construct type fields isOpen))

/-- A value for a property of a mapping whose source is bound to a name. -/
def PropertyMapping.FilledBy (a : Arena) (m : Mapping) (input : String) (p : PropertyMapping)
    (v : Value) : Prop :=
  v.Fills a p.strategies [(input, ⟨.object m.source false, p.source⟩)] p.destination.ty

theorem TypeRef.nonNull_of_not_nullable {t : TypeRef} (h : t.nullable = false) : t.nonNull = t := by
  rw [nonNull, ← h, withNullable_self]

@[simp] theorem TypeRef.nonNull_withNullable (t : TypeRef) (n : Bool) :
    (t.withNullable n).nonNull = t.nonNull := by cases t <;> rfl

@[simp] theorem TypeRef.nonNull_nonNull (t : TypeRef) : t.nonNull.nonNull = t.nonNull :=
  t.nonNull_withNullable false

namespace Value

variable {a : Arena} {S : List Strategy} {Γ : Bindings} {t u : TypeRef} {v w : Value} {p : Place}
  {binding : String} {rest : List Hop}

/-! ### Inversion -/

theorem fills_present_iff (ht : t.nullable = true) :
    (present v).Fills a S Γ t ↔ v.Fills a S Γ t.nonNull := by
  refine ⟨fun h => ?_, .present ht⟩
  cases h with
  | present _ h => exact h

theorem fills_cases_iff (hp : p.held? Γ = some ⟨u, rest⟩) (hu : u.nullable = true)
    (hw : w.Fills a S Γ t) : (cases p binding v w).Fills a S Γ t ↔
      v.Fills a S ((binding, ⟨u.nonNull, rest⟩) :: Γ) t := by
  refine ⟨fun h => ?_, fun h => .cases hp hu h hw⟩
  cases h with
  | cases hp' _ h _ =>
      obtain ⟨rfl, rfl⟩ := Held.mk.inj (Option.some.inj (hp'.symm.trans hp))
      exact h

theorem fills_chained_iff (hp : p.held? Γ = some ⟨u, rest⟩) (hu : u.nullable = true)
    (ht : t.nullable = true) : (chained p binding v).Fills a S Γ t ↔
      v.Fills a S ((binding, ⟨u.nonNull, rest⟩) :: Γ) t := by
  refine ⟨fun h => ?_, .chained hp hu ht⟩
  cases h with
  | chained hp' _ _ h =>
      obtain ⟨rfl, rfl⟩ := Held.mk.inj (Option.some.inj (hp'.symm.trans hp))
      exact h

theorem fills_mapped_iff (hp : p.held? Γ = some ⟨u, rest⟩) (hu : u.nullable = true)
    (ht : t.nullable = true) : (mapped p binding v).Fills a S Γ t ↔
      v.Fills a S ((binding, ⟨u.nonNull, rest⟩) :: Γ) t.nonNull := by
  refine ⟨fun h => ?_, .mapped hp hu ht⟩
  cases h with
  | mapped hp' _ _ h =>
      obtain ⟨rfl, rfl⟩ := Held.mk.inj (Option.some.inj (hp'.symm.trans hp))
      exact h

theorem fills_orStandard_iff (ht : t.nullable = false) :
    (orStandard v).Fills a S Γ t ↔ v.Fills a S Γ (t.withNullable true) := by
  refine ⟨fun h => ?_, .orStandard ht⟩
  cases h with
  | orStandard _ h => exact h

/-- What is converted from an option, with the default in place of what is absent, is like what it
is converted to. -/
theorem fills_orStandard_mapped_iff (hp : p.held? Γ = some ⟨u, rest⟩) (hu : u.nullable = true)
    (ht : t.nullable = false) : (orStandard (mapped p binding v)).Fills a S Γ t ↔
      v.Fills a S ((binding, ⟨u.nonNull, rest⟩) :: Γ) t := by
  rw [fills_orStandard_iff ht, fills_mapped_iff hp hu (TypeRef.nullable_withNullable true t),
    TypeRef.nonNull_withNullable, TypeRef.nonNull_of_not_nullable ht]

theorem fills_copies_iff {k : CollectionKind} {d : TypeRef} {items : Items} {byValue : Bool}
    (hi : items.held? Γ = some u) :
    (copies items byValue k).Fills a S Γ (.collection k d false) ↔ u.nullable = d.nullable := by
  refine ⟨fun h => ?_, .copies hi⟩
  cases h with
  | copies hi' h => rwa [← Option.some.inj (hi'.symm.trans hi)]

/-- Values for the slots of a tuple, one by one, fill it. -/
theorem fills_tuple {els : List ElementMapping} {vs : List Value}
    (h : List.Forall₂ (fun el v => v.Fills a S Γ el.destination) els vs) :
    (Value.tuple vs).Fills a S Γ (.tuple (els.map ElementMapping.destination) false) := by
  obtain ⟨hlen, hzip⟩ := List.forall₂_iff_zip.mp (List.forall₂_map_left_iff.mpr h)
  exact .tuple hlen fun _ hq => hzip hq

/-! ### Fitting -/

/-- What is lifted fills its slot exactly if it fills that of a present value. -/
theorem fills_lifted_iff : (v.lifted t.nullable).Fills a S Γ t ↔ v.Fills a S Γ t.nonNull := by
  unfold lifted
  split
  · rename_i ht
    exact fills_present_iff ht
  · rename_i ht
    rw [TypeRef.nonNull_of_not_nullable (Bool.eq_false_iff.mpr ht)]

/-- What is no option is fitted by lifting it. -/
theorem fills_fitted_iff (hv : v.optional = false) :
    (v.fitted t.nullable).Fills a S Γ t ↔ v.Fills a S Γ t.nonNull := by
  have heq : v.fitted t.nullable = v.lifted t.nullable := by
    unfold Value.fitted lifted
    rw [hv]
    cases t.nullable <;> rfl
  rw [heq, fills_lifted_iff]

/-- What is fitted fills its slot if before it filled one of its own kind. -/
theorem Fills.fitted (h : v.Fills a S Γ (t.withNullable v.optional)) :
    (v.fitted t.nullable).Fills a S Γ t := by
  unfold Value.fitted
  split
  · rename_i hv ht
    exact .orStandard ht (hv ▸ h)
  · rename_i hv ht
    rw [hv] at h
    exact .present ht h
  · rename_i hother hother'
    have hsame : v.optional = t.nullable := by
      cases hv : v.optional <;> cases ht : t.nullable <;> simp_all
    rwa [hsame, TypeRef.withNullable_self] at h

end Value

/-! ## 3. Slots that nothing fills -/

/-- An element is copied as it is, though it is always there and its slot may be empty. -/
def ElementMapping.Lifts (e : ElementMapping) : Prop :=
  e.strategy = none ∧ e.source.nullable = false ∧ e.destination.nullable = true

/-- A property copies such elements. -/
def PropertyMapping.LiftsCopies (p : PropertyMapping) : Prop :=
  ∃ s t e, p.shape = .collection s t e ∧ e.Lifts

instance (e : ElementMapping) : Decidable e.Lifts := by unfold ElementMapping.Lifts; infer_instance

theorem PropertyMapping.liftsCopies_iff {p : PropertyMapping} {s t : CollectionKind}
    {e : ElementMapping} (h : p.shape = .collection s t e) : p.LiftsCopies ↔ e.Lifts := by
  refine ⟨fun ⟨s', t', e', h', hl⟩ => ?_, fun hl => ⟨s, t, e, h, hl⟩⟩
  rw [h] at h'
  cases h'
  exact hl

theorem PropertyMapping.not_liftsCopies {p : PropertyMapping}
    (h : ∀ s t e, p.shape ≠ .collection s t e) : ¬ p.LiftsCopies :=
  fun ⟨s, t, e, h', _⟩ => h s t e h'

/-- Such a property needs no strategy. -/
theorem PropertyMapping.LiftsCopies.strategies_eq_nil {c : Config} {p : PropertyMapping}
    (h : p.LiftsCopies) (hp : p.Built c) : p.strategies = [] := by
  obtain ⟨s, t, e, hshape, hlifts⟩ := h
  rw [strategies, hp.slotwise (by simp [hshape]), hshape]
  simp [Shape.elements, hlifts.1]

section Copies

variable {c : Config} {ignoreNull : Bool} {slot : Slot} {e : ElementMapping}

/-- Such an element has no policy. -/
theorem ElementMapping.NullSafe.onNull_of_lifts (h : e.NullSafe c ignoreNull slot)
    (hl : e.Lifts) : e.onNull = none := by
  cases hpolicy : e.onNull with
  | none => rfl
  | some policy =>
      exact absurd (hl.2.1.symm.trans (h.nullable_of_policy hpolicy)) Bool.false_ne_true

/-- **Elements copied as they are** fill their slots unless they would have to be lifted: without a
policy none of them is absent. -/
theorem Value.fills_copies_iff_not_lifts (h : e.NullSafe c ignoreNull slot)
    (hstrategy : e.strategy = none) (hnone : e.onNull = none) {a : Arena} {S : List Strategy}
    {Γ : Bindings} {items : Items} (hi : items.held? Γ = some e.source) {k : CollectionKind}
    {byValue : Bool} : (copies items byValue k).Fills a S Γ (.collection k e.destination false) ↔
      ¬ e.Lifts := by
  have hpresent : e.source.nullable = false := Bool.eq_false_iff.mpr fun hnull => by
    obtain ⟨s, hs, -⟩ := h.takes_of_none hnone hnull
    rw [hstrategy] at hs
    cases hs
  rw [fills_copies_iff hi, ElementMapping.Lifts, hpresent, eq_comm]
  simp [hstrategy]

end Copies

/-! ## 4. Chains -/

/-- **A place on the way** along the links of a property, of which some are left. What is read there
is there, unless it is at the end and the strategy takes absent values. -/
structure PropertyMapping.At (m : PropertyMapping) (Γ : Bindings) (p : Place) (rest : List Hop)
    (u : TypeRef) : Prop where
  held : p.held? Γ = some ⟨u, rest⟩
  suffix : ∃ before, m.source = before ++ rest
  optional : p.optional = u.nullable
  absent : u.nullable = true → rest = [] ∧ ∃ s ∈ m.strategy, s.acceptsNull = true
  terminal : rest = [] → u.nonNull = m.terminal.ty.nonNull

namespace PropertyMapping.At

variable {c : Config} {m : PropertyMapping} {Γ : Bindings} {base : Place} {rest : List Hop}
  {hop : Hop} {u : TypeRef} {name : String}

/-- The last link of a chain is where it ends. -/
theorem terminal_eq_of_suffix {before : List Hop} (h : m.source = before ++ [hop]) :
    m.terminal = hop := by
  rw [PropertyMapping.terminal, h, List.getLast?_concat]
  rfl

/-- The first place: the source. -/
theorem source (hm : m.source ≠ []) (input path : String) :
    m.At [(input, ⟨.object path false, m.source⟩)] (.binding input false) m.source
      (.object path false) :=
  ⟨Place.held?_binding_cons _ _ _ _, ⟨[], rfl⟩, rfl, nofun, fun h => absurd h hm⟩

theorem present (h : m.At Γ base (hop :: rest) u) : u.nullable = false :=
  Bool.eq_false_iff.mpr fun hu => List.cons_ne_nil _ _ (h.absent hu).1

theorem held_field (h : m.At Γ base (hop :: rest) u) (hname : Code.name? hop.name = some name) :
    (Place.field base name hop.nullable).held? Γ = some ⟨hop.ty, rest⟩ :=
  Place.held?_field h.held h.present hname

theorem suffix_tail (h : m.At Γ base (hop :: rest) u) :
    ∃ before, m.source = (before ++ [hop]) ++ rest := by
  obtain ⟨before, hbefore⟩ := h.suffix
  exact ⟨before, hbefore.trans (List.append_cons before hop rest)⟩

theorem terminal_tail (h : m.At Γ base (hop :: rest) u) (hrest : rest = []) :
    m.terminal = hop := by
  obtain ⟨before, hbefore⟩ := h.suffix_tail
  rw [hrest, List.append_nil] at hbefore
  exact terminal_eq_of_suffix hbefore

theorem nullSafe (h : m.At Γ base (hop :: rest) u) (hm : m.NullSafe c) :
    hop.NullSafe c m (rest = []) := by
  obtain ⟨before, hbefore⟩ := h.suffix
  exact hm.hops before hop rest hbefore

/-- **A link without a policy** leads to the next place. -/
theorem field (h : m.At Γ base (hop :: rest) u) (hm : m.NullSafe c)
    (hname : Code.name? hop.name = some name) (hnone : hop.onNull = none) :
    m.At Γ (.field base name hop.nullable) rest hop.ty := by
  have hsafe := h.nullSafe hm
  refine ⟨h.held_field hname, ?_, rfl, fun hnull => ?_, fun hrest => ?_⟩
  · obtain ⟨before, hbefore⟩ := h.suffix_tail
    exact ⟨_, hbefore⟩
  · refine Decidable.byContradiction fun hno => ?_
    have hsome := hsafe.isSome_iff.mpr ⟨hnull, hno⟩
    rw [hnone] at hsome
    cases hsome
  · rw [h.terminal_tail hrest]

/-- **Behind a link with a policy** the value is there, under the name of a binding. -/
theorem binding (h : m.At Γ base (hop :: rest) u) (name : String) :
    m.At ((name, ⟨hop.ty.nonNull, rest⟩) :: Γ) (.binding name false) rest hop.ty.nonNull := by
  refine ⟨Place.held?_binding_cons _ _ _ _, ?_, ?_, fun hnull => ?_, fun hrest => ?_⟩
  · obtain ⟨before, hbefore⟩ := h.suffix_tail
    exact ⟨_, hbefore⟩
  · exact (TypeRef.nullable_nonNull _).symm
  · rw [TypeRef.nullable_nonNull] at hnull
    cases hnull
  · rw [h.terminal_tail hrest, TypeRef.nonNull_nonNull]

theorem nullable_of_policy (h : m.At Γ base (hop :: rest) u) (hm : m.NullSafe c)
    {policy : NullPolicy} (hsome : hop.onNull = some policy) : hop.ty.nullable = true :=
  ((h.nullSafe hm).isSome_iff.mp (by rw [hsome]; rfl)).1

/-- **At the end of a chain** a container is there, with its slots, and so is the one that it fills.
-/
theorem held_container (h : m.At Γ base [] u) (hm : m.Built c) (hshape : m.shape ≠ .scalar)
    {source destination : TypeRef} (hsource : m.terminal.ty = source)
    (hdest : m.destination.ty = destination) :
    base.held? Γ = some ⟨source.nonNull, []⟩ ∧
      m.destination.ty.nonNull = destination.nonNull := by
  have hpresent : u.nullable = false := Bool.eq_false_iff.mpr fun hnull => by
    obtain ⟨-, s, hs, -⟩ := h.absent hnull
    rw [hm.slotwise hshape] at hs
    cases hs
  rw [h.held, ← hsource, ← hdest, ← h.terminal rfl, TypeRef.nonNull_of_not_nullable hpresent]
  exact ⟨rfl, rfl⟩

/-- The collection at the end, and the one that it fills. -/
theorem held_collection (h : m.At Γ base [] u) (hm : m.Built c) {s t : CollectionKind}
    {el : ElementMapping} (hshape : m.shape = .collection s t el) :
    (∃ j, base.held? Γ = some ⟨.collection j el.source false, []⟩) ∧
      m.destination.ty.nonNull = .collection t el.destination false := by
  have hbetween : (Shape.collection s t el).Between m.terminal.ty m.destination.ty :=
    hshape ▸ hm.between
  obtain ⟨j, n, n', hsource, hdest⟩ := hbetween
  exact (h.held_container hm (by simp [hshape]) hsource hdest).imp_left fun hp => ⟨j, hp⟩

/-- The map at the end, and the one that it fills. -/
theorem held_map (h : m.At Γ base [] u) (hm : m.Built c) {t : MapKind} {k v : ElementMapping}
    (hshape : m.shape = .map t k v) :
    (∃ j, base.held? Γ = some ⟨.map j k.source v.source false, []⟩) ∧
      m.destination.ty.nonNull = .map t k.destination v.destination false := by
  have hbetween : (Shape.map t k v).Between m.terminal.ty m.destination.ty := hshape ▸ hm.between
  obtain ⟨j, n, n', hsource, hdest⟩ := hbetween
  exact (h.held_container hm (by simp [hshape]) hsource hdest).imp_left fun hp => ⟨j, hp⟩

/-- The tuple at the end, and the one that it fills. -/
theorem held_tuple (h : m.At Γ base [] u) (hm : m.Built c) {els : List ElementMapping}
    (hshape : m.shape = .tuple els) :
    base.held? Γ = some ⟨.tuple (els.map ElementMapping.source) false, []⟩ ∧
      m.destination.ty.nonNull = .tuple (els.map ElementMapping.destination) false := by
  have hbetween : (Shape.tuple els).Between m.terminal.ty m.destination.ty := hshape ▸ hm.between
  obtain ⟨n, n', hsource, hdest⟩ := hbetween
  exact h.held_container hm (by simp [hshape]) hsource hdest

end PropertyMapping.At

end TypeMapper
