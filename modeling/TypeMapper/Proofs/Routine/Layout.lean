import Mathlib.Data.Finset.Insert
import Mathlib.Data.Finset.Dedup
import Mathlib.Data.Finset.Lattice.Lemmas
import TypeMapper.Proofs.Routine.Modules
/-!
# How a routine is laid out

The values in a routine are made of the calls of strategies and of what stands around them: the
cases of links and slots, and the closures over elements and entries. The calls of a property stand
where its chain and its shape put them, one for each strategy and no others.

* `CallSite`, `PropertyMapping.sites`: where a property calls, and what is bound around there.
* `Emitter.Lays`: the JUDGEMENT that an expression calls at some sites; what is read off a routine
  is proved by induction on it.
* `Emitter.slot_lays`, `along_lays`, `property_lays`: function by function.
* `Emitter.primary_lays`: the routine of a mapping.
-/

namespace TypeMapper

/-! ## 1. Sites -/

/-- A strategy by which a value is converted, and the names that are bound around the call. -/
structure CallSite where
  bound : Finset String
  strategy : Strategy
  deriving DecidableEq

namespace CallSite

/-- The site inside a form that binds names. -/
def within (names : Finset String) (s : CallSite) : CallSite := ⟨names ∪ s.bound, s.strategy⟩

/-- The sites of a value that is converted by a strategy or copied. -/
def ofStrategy (bound : Finset String) (s : Option Strategy) : List CallSite :=
  s.toList.map (mk bound)

/-- The sites of the elements of a tuple from a position on; only the case of an element that may be
absent binds a name. -/
def ofTuple : Nat → List ElementMapping → List CallSite
  | _, [] => []
  | i, el :: rest =>
    ofStrategy (if el.onNull.isSome then {"item_" ++ toString i} else ∅) el.strategy
      ++ ofTuple (i + 1) rest

theorem map_within_ofStrategy (names bound : Finset String) (s : Option Strategy) :
    (ofStrategy bound s).map (within names) = ofStrategy (names ∪ bound) s := by
  cases s <;> rfl

theorem map_within_map_within (names more : Finset String) (sites : List CallSite) :
    (sites.map (within more)).map (within names) = sites.map (within (names ∪ more)) := by
  simp [within, Function.comp_def, Finset.union_assoc]

theorem map_within_empty (sites : List CallSite) : sites.map (within ∅) = sites := by
  have h : within ∅ = id := funext fun s => by rw [within, Finset.empty_union]; rfl
  rw [h, List.map_id]

/-- A name that a form binds again adds nothing. -/
theorem union_ite_singleton {names : Finset String} {b : String} (h : b ∈ names) (c : Bool) :
    names ∪ (if c then {b} else ∅) = names := by
  cases c with
  | false => exact Finset.union_empty names
  | true => exact Finset.union_eq_left.mpr (Finset.singleton_subset_iff.mpr h)

theorem map_strategy_within (names : Finset String) (sites : List CallSite) :
    (sites.map (within names)).map strategy = sites.map strategy := by
  simp [within, Function.comp_def]

theorem map_strategy_ofStrategy (bound : Finset String) (s : Option Strategy) :
    (ofStrategy bound s).map strategy = s.toList := by
  cases s <;> rfl

theorem map_strategy_ofTuple (i : Nat) (els : List ElementMapping) :
    (ofTuple i els).map strategy = els.filterMap ElementMapping.strategy := by
  induction els generalizing i with
  | nil => rfl
  | cons el rest ih =>
      rw [ofTuple, List.map_append, map_strategy_ofStrategy, ih, List.filterMap_cons]
      cases el.strategy <;> rfl

end CallSite

open CallSite

/-- The name of the present value of a link, if the link has a policy. -/
def Hop.binding? (h : Hop) : Option String := h.onNull.map fun _ => h.name ++ "_value"

/-- The names that a chain binds around what is at its end. -/
def Hop.bindings (hops : List Hop) : Finset String := (hops.filterMap Hop.binding?).toFinset

theorem Hop.bindings_cons_of_none {h : Hop} (hnull : h.onNull = none) (rest : List Hop) :
    bindings (h :: rest) = bindings rest := by
  rw [bindings, List.filterMap_cons_none (by rw [binding?, hnull]; rfl), bindings]

theorem Hop.bindings_cons_of_some {h : Hop} {policy : NullPolicy} (hnull : h.onNull = some policy)
    (rest : List Hop) : bindings (h :: rest) = {h.name ++ "_value"} ∪ bindings rest := by
  rw [bindings, List.filterMap_cons_some (by rw [binding?, hnull]; rfl), List.toFinset_cons,
    Finset.insert_eq, bindings]

namespace PropertyMapping

/-- Where a property calls at the end of its chain. -/
def endSites (p : PropertyMapping) : List CallSite :=
  match p.shape with
  | .scalar => ofStrategy ∅ p.strategy
  | .collection _ _ el => ofStrategy {"element"} el.strategy
  | .map _ k v => ofStrategy {"key", "value"} k.strategy ++ ofStrategy {"key", "value"} v.strategy
  | .tuple els => ofTuple 0 els

/-- **Where a property calls**, in the order of its strategies. -/
def sites (p : PropertyMapping) : List CallSite := p.endSites.map (within (Hop.bindings p.source))

/-- There is a site for each strategy, where a container has none beside those of its slots. -/
theorem map_strategy_sites {p : PropertyMapping} (hp : p.shape ≠ .scalar → p.strategy = none) :
    p.sites.map CallSite.strategy = p.strategies := by
  rw [sites, map_strategy_within, endSites, strategies]
  cases hshape : p.shape with
  | scalar => simp [map_strategy_ofStrategy, Shape.elements]
  | collection _ _ el =>
      rw [hp (by simp [hshape])]
      simp only [map_strategy_ofStrategy, Shape.elements]
      cases h : el.strategy <;> simp [h]
  | map _ k v =>
      rw [hp (by simp [hshape])]
      simp only [List.map_append, map_strategy_ofStrategy, Shape.elements]
      cases hk : k.strategy <;> cases hv : v.strategy <;> simp [hk, hv]
  | tuple els =>
      rw [hp (by simp [hshape])]
      exact map_strategy_ofTuple 0 els

end PropertyMapping

/-- Where the routine of a mapping calls. -/
def Mapping.sites (m : Mapping) : List CallSite := m.properties.flatMap PropertyMapping.sites

theorem Mapping.map_strategy_sites {m : Mapping}
    (hm : ∀ p ∈ m.properties, p.shape ≠ .scalar → p.strategy = none) :
    m.sites.map CallSite.strategy = m.strategies := by
  rw [sites, List.map_flatMap, strategies]
  exact List.flatMap_congr fun p hp => PropertyMapping.map_strategy_sites (hm p hp)

/-! ## 2. The judgement -/

/-- What stands for an absent value. -/
inductive Value.StandsIn : Value → Prop where
  | absent : StandsIn .absent
  | standard : StandsIn .standard
  | fail (e : MappingError) : StandsIn (.fail e)
  | dropEntry : StandsIn .dropEntry

namespace Emitter

variable {e : Emitter}

/-- Some site is awaited. -/
def awaitsAny (e : Emitter) (sites : List CallSite) : Bool :=
  sites.any fun s => e.isAwaited (some s.strategy)

theorem awaitsAny_ofStrategy (bound : Finset String) (s : Option Strategy) :
    e.awaitsAny (ofStrategy bound s) = e.isAwaited s := by
  cases s <;> simp [awaitsAny, ofStrategy, isAwaited]

theorem awaitsAny_within (names : Finset String) (sites : List CallSite) :
    e.awaitsAny (sites.map (within names)) = e.awaitsAny sites := by
  simp [awaitsAny, within, Function.comp_def]

theorem awaitsAny_append (ss ts : List CallSite) :
    e.awaitsAny (ss ++ ts) = (e.awaitsAny ss || e.awaitsAny ts) := List.any_append

/-- **The expression calls at the sites**, in order, and nowhere else. Slots are joined exactly if
one of the calls in them is awaited. -/
inductive Lays (e : Emitter) : List CallSite → Value → Prop where
  | read (p : Place) (byValue : Bool) : e.Lays [] (.read p byValue)
  | copies (items : Items) (byValue : Bool) (target : CollectionKind) :
      e.Lays [] (.copies items byValue target)
  | call {s : Strategy} {p : Place} {byValue : Bool} {v : Value}
      (h : e.convert (some s) p byValue = .ok v) : e.Lays [⟨∅, s⟩] v
  | present {sites : List CallSite} {v : Value} (h : e.Lays sites v) : e.Lays sites (.present v)
  | orStandard {sites : List CallSite} {v : Value} (h : e.Lays sites v) :
      e.Lays sites (.orStandard v)
  | cases {sites : List CallSite} {v otherwise : Value} (p : Place) (binding : String)
      (h : e.Lays sites v) (ho : otherwise.StandsIn) :
      e.Lays (sites.map (within {binding})) (.cases p binding v otherwise)
  | each {sites : List CallSite} {v : Value} {g : Gathering} (items : Items) (binding : String)
      (target : CollectionKind) (h : e.Lays sites v) (hg : g = .joined ↔ e.awaitsAny sites = true) :
      e.Lays (sites.map (within {binding})) (.each items binding v target g)
  | entries {ks vs : List CallSite} {k v : Value} {g : Gathering} (p : Place)
      (keyBinding valueBinding : String) (target : MapKind) (hk : e.Lays ks k) (hv : e.Lays vs v)
      (hg : g = .joined ↔ e.awaitsAny (ks ++ vs) = true) :
      e.Lays ((ks ++ vs).map (within {keyBinding, valueBinding}))
        (.entries p keyBinding valueBinding k v target g)
  | tupleNil : e.Lays [] (.tuple [])
  | tupleCons {ss ts : List CallSite} {v : Value} {vs : List Value} (hv : e.Lays ss v)
      (hvs : e.Lays ts (.tuple vs)) : e.Lays (ss ++ ts) (.tuple (v :: vs))
  | fieldsNil (type : PathSpelling) (isOpen : Bool) : e.Lays [] (.construct type [] isOpen)
  | fieldsCons {ss ts : List CallSite} {type : PathSpelling} {isOpen : Bool} {v : Value}
      {fields : List (String × Value)} (name : String) (hv : e.Lays ss v)
      (hfields : e.Lays ts (.construct type fields isOpen)) :
      e.Lays (ss ++ ts) (.construct type ((name, v) :: fields) isOpen)

theorem Lays.fitted {sites : List CallSite} {v : Value} (h : e.Lays sites v) (wanted : Bool) :
    e.Lays sites (v.fitted wanted) := by
  unfold Value.fitted
  split
  · exact .orStandard h
  · exact .present h
  · exact h

/-! ## 3. Slots -/

theorem convert_lays (s : Option Strategy) (p : Place) (byValue : Bool) :
    Gives (e.Lays (ofStrategy ∅ s)) (e.convert s p byValue) := by
  cases s with
  | none => exact gives_ok (.read p byValue)
  | some t => exact fun v hv => .call hv

theorem absentValue_standsIn (policy : NullPolicy) {dropped : Value} (hd : dropped.StandsIn)
    (label : String) : (e.absentValue policy dropped label).StandsIn := by
  cases policy with
  | propagate => exact .absent
  | guard => exact .fail _
  | fallback => exact .standard
  | drop => exact hd

theorem absentHop_standsIn (policy : NullPolicy) (path : String) :
    (e.absentHop policy path).StandsIn := by
  cases policy with
  | propagate => exact .absent
  | guard => exact .fail _
  | fallback => exact .standard
  | drop => exact .standard

/-- **A slot** calls inside the case of a present value, if it has one. -/
theorem slot_lays (el : ElementMapping) (p : Place) (binding : String) {dropped : Value}
    (hd : dropped.StandsIn) (label : String) :
    Gives (e.Lays (ofStrategy (if el.onNull.isSome then {binding} else ∅) el.strategy))
      (e.slot el p binding dropped label) := by
  unfold slot
  cases el.onNull with
  | none => exact (convert_lays _ _ _).bind fun v hv => gives_ok (hv.fitted _)
  | some policy =>
      refine (convert_lays _ _ _).bind fun v hv => gives_ok ?_
      have hother : (e.absentValue policy dropped label).StandsIn := absentValue_standsIn policy hd _
      have hcase := (hv.fitted el.destination.nullable).cases p binding hother
      rwa [map_within_ofStrategy, Finset.union_empty] at hcase

theorem gathering_eq_joined_iff (awaited fails : Bool) :
    (if awaited then .joined else if fails then .fallible else .plain : Gathering) = .joined ↔
      awaited = true := by
  cases awaited <;> cases fails <;> simp

/-- The elements of a collection; leaving out the absent ones changes no call. -/
theorem collection_lays (p : Place) (target : CollectionKind) (el : ElementMapping)
    (label : String) : Gives (e.Lays (ofStrategy {"element"} el.strategy))
      (e.collection p target el label) := by
  have hgathered (el : ElementMapping) (items : Items) :
      Gives (e.Lays (ofStrategy {"element"} el.strategy))
        ((if el.strategy.isNone && el.onNull.isNone then .ok (.copies items el.byValue target)
        else do
          let v ← e.slot el (.binding "element" el.source.nullable) "element" .standard label
          let gathering : Gathering :=
            if e.isAwaited el.strategy then .joined else if isFallible el then .fallible else .plain
          return .each items "element" v target gathering) : Emit Value) := by
    split
    · rename_i h
      rw [Bool.and_eq_true, Option.isNone_iff_eq_none] at h
      rw [h.1]
      exact gives_ok (.copies items el.byValue target)
    · refine (slot_lays el _ _ .standard label).bind fun v hv => gives_ok ?_
      have hjoined := hv.each items "element" target
        ((gathering_eq_joined_iff (e.isAwaited el.strategy) (isFallible el)).trans
          (by rw [awaitsAny_ofStrategy]))
      rwa [map_within_ofStrategy, union_ite_singleton (Finset.mem_singleton_self _)] at hjoined
  unfold collection
  cases el.onNull == some .drop with
  | true => exact hgathered { el with source := el.source.nonNull, onNull := none } _
  | false => exact hgathered el _

/-- The entries of a map: both names are bound around the key and around the value. -/
theorem entries_lays (p : Place) (target : MapKind) (k v : ElementMapping) (label : String) :
    Gives (e.Lays (ofStrategy {"key", "value"} k.strategy ++ ofStrategy {"key", "value"} v.strategy))
      (e.entries p target k v label) := by
  unfold entries
  refine (slot_lays k _ _ .dropEntry label).bind fun key hkey => ?_
  refine (slot_lays v _ _ .dropEntry label).bind fun value hvalue => gives_ok ?_
  have hjoined := hkey.entries p "key" "value" target hvalue
    ((gathering_eq_joined_iff (e.isAwaited k.strategy || e.isAwaited v.strategy)
      ((k.onNull == some .drop || v.onNull == some .drop) || isFallible k || isFallible v)).trans
        (by rw [awaitsAny_append, awaitsAny_ofStrategy, awaitsAny_ofStrategy]))
  rwa [List.map_append, map_within_ofStrategy, map_within_ofStrategy,
    union_ite_singleton (Finset.mem_insert_self _ _),
    union_ite_singleton (Finset.mem_insert_of_mem (Finset.mem_singleton_self _))] at hjoined

theorem tupleFrom_lays (p : Place) (label : String) (i : Nat) (els : List ElementMapping) :
    Gives (fun vs => e.Lays (ofTuple i els) (.tuple vs)) (e.tupleFrom p label i els) := by
  induction els generalizing i with
  | nil => exact gives_ok .tupleNil
  | cons el rest ih =>
      unfold tupleFrom
      exact (slot_lays el _ _ .standard label).bind fun v hv => (ih (i + 1)).bind fun vs hvs =>
        gives_ok (hv.tupleCons hvs)

/-! ## 4. Properties -/

variable {m : PropertyMapping}

theorem terminal_lays (p : Place) : Gives (e.Lays m.endSites) (e.terminal m p) := by
  unfold terminal PropertyMapping.endSites
  cases m.shape with
  | scalar => exact (convert_lays _ _ _).bind fun v hv => gives_ok (hv.fitted _)
  | collection s target el =>
      exact (collection_lays _ _ _ _).bind fun v hv => gives_ok (hv.fitted _)
  | map target k v => exact (entries_lays _ _ _ _ _).bind fun w hw => gives_ok (hw.fitted _)
  | tuple els =>
      have htuple : Gives (e.Lays (ofTuple 0 els)) (e.tuple p els m.sourcePath) :=
        (tupleFrom_lays p _ 0 els).map fun _ hvs => hvs
      exact htuple.bind fun v hv => gives_ok (hv.fitted _)

theorem made_gives (name : String) : Gives (fun n => n = name) (made name) := by
  unfold made
  split
  · exact gives_ok rfl
  · exact gives_error _

/-- **Along a chain** each link with a policy binds a name around the rest. -/
theorem along_lays (base : Place) (i : Nat) (hops : List Hop) :
    Gives (e.Lays (m.endSites.map (within (Hop.bindings hops)))) (e.along m base i hops) := by
  induction hops generalizing base i with
  | nil =>
      rw [Hop.bindings, List.filterMap_nil, List.toFinset_nil, map_within_empty]
      exact terminal_lays base
  | cons hop rest ih =>
      unfold along
      refine (gives_true _).bind fun name _ => ?_
      cases hnull : hop.onNull with
      | none =>
          rw [Hop.bindings_cons_of_none hnull]
          exact ih _ _
      | some policy =>
          refine (made_gives _).bind fun binding hbinding => (ih _ _).bind fun v hv => gives_ok ?_
          rw [Hop.bindings_cons_of_some hnull, ← hbinding, ← map_within_map_within]
          exact hv.cases _ _ (absentHop_standsIn policy _)

/-- **The value of a property** calls at the sites of the property. -/
theorem property_lays : Gives (e.Lays m.sites) (e.property m) := by
  unfold property
  split
  · rename_i hcopy
    simp only [isDirectCopy, Bool.and_eq_true, beq_iff_eq, Option.isNone_iff_eq_none] at hcopy
    obtain ⟨⟨⟨⟨⟨-, hstrategy⟩, hshape⟩, -⟩, -⟩, -⟩ := hcopy
    have hsites : m.sites = [] := by
      rw [PropertyMapping.sites, PropertyMapping.endSites, hshape, hstrategy]
      rfl
    rw [hsites]
    exact (gives_true _).bind fun name _ => gives_ok (.read _ _)
  · exact along_lays _ _ _

/-! ## 5. Routines -/

theorem fields_lays (type : PathSpelling) (isOpen : Bool) (ms : List PropertyMapping) :
    Gives (fun fields => e.Lays (ms.flatMap PropertyMapping.sites) (.construct type fields isOpen))
      (ms.mapM e.field) := by
  induction ms with
  | nil => exact gives_ok (.fieldsNil type isOpen)
  | cons m ms ih =>
      rw [List.mapM_cons]
      have hfield : Gives (fun f => e.Lays m.sites f.2) (e.field m) :=
        (gives_true _).bind fun _ _ => property_lays.bind fun v hv => gives_ok hv
      exact hfield.bind fun f hf => ih.bind fun fs hfs => gives_ok (hf.fieldsCons f.1 hfs)

/-- **The routine of a mapping** calls at the sites of the mapping. -/
theorem primary_lays : Gives (fun r => e.Lays e.mapping.sites r.literal) e.primary :=
  primary_parts.imp fun _ hr => fields_lays _ false _ _ hr.fields

end Emitter

end TypeMapper
