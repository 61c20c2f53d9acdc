import TypeMapper.Proofs.Absence.Values
import TypeMapper.Proofs.Routine.Modules
/-!
# Absence in the routine of a mapping

The routine makes an option exactly where one is wanted: whatever a conversion gives is fitted to
its slot. The elements of a collection that are copied at once are not, which matters where they are
always there and their slot may be empty.

* `Emitter.convert_gives`, `slot_gives`: a conversion, and one fitted to its slot.
* `Emitter.collection_gives`: the elements of a collection.
* `Emitter.property_gives`: the value of a property fills its slot unless it copies such elements.
-/

namespace TypeMapper

open Value

theorem spelledName_gives (text : String) :
    Gives (fun name => Code.name? text = some name) (spelledName text) :=
  gives_ofOption _ _

theorem getElem?_of_drop_eq_cons {α : Type} {xs ys : List α} {x : α} {i : Nat}
    (h : xs.drop i = x :: ys) : xs[i]? = some x ∧ xs.drop (i + 1) = ys := by
  rw [← List.head?_drop, ← List.tail_drop, h]
  exact ⟨rfl, rfl⟩

namespace Emitter

variable {e : Emitter} {a : Arena} {S : List Strategy} {Γ : Bindings} {u d : TypeRef} {p : Place}
  {s : Option Strategy}

/-! ## 1. Conversions -/

theorem subject_suits (hp : p.held? Γ = some ⟨u, []⟩) (ho : p.optional = u.nullable) {takes : Bool}
    (hu : u.nullable = true → takes = true) (byValue : Bool) :
    (subject p byValue takes).Suits Γ takes := by
  unfold subject
  split
  · rename_i h
    rw [Bool.and_eq_true, Bool.not_eq_true', ho] at h
    exact .present hp h.2 h.1
  · rename_i h
    refine .borrowed hp ?_
    rw [← ho] at hu ⊢
    cases ht : takes <;> cases hopt : p.optional <;> simp_all

/-- **A conversion** gives an option exactly if it says so. -/
theorem convert_gives (hs : ∀ t ∈ s, t ∈ S) (hp : p.held? Γ = some ⟨u, []⟩)
    (ho : p.optional = u.nullable)
    (hu : u.nullable = true → ∃ t ∈ s, t.acceptsNull = true) (byValue : Bool) :
    Gives (fun v => v.Fills a S Γ (d.withNullable v.optional)) (e.convert s p byValue) := by
  unfold convert
  cases s with
  | none => exact gives_ok (.read hp (ho.symm.trans (TypeRef.nullable_withNullable _ _).symm))
  | some t =>
      have hmem := hs t rfl
      have htakes : u.nullable = true → t.acceptsNull = true := fun hnull => by
        obtain ⟨t', ht', htakes⟩ := hu hnull
        exact Option.some.inj ht' ▸ htakes
      cases t with
      | method c =>
          refine (gives_true _).bind fun _ _ => (spelledName_gives c.name).bind fun _ hname => ?_
          refine (gives_true _).bind fun _ _ => gives_ok ?_
          exact .method hmem hname (subject_suits hp ho htakes byValue)
            (TypeRef.nullable_withNullable _ _).symm
      | resolver c =>
          refine (spelledName_gives c.instanceName).bind fun _ hname => ?_
          refine (gives_true _).bind fun _ _ => (gives_true _).bind fun _ _ => gives_ok ?_
          exact .resolve hmem hname (subject_suits hp ho htakes byValue)
            (TypeRef.nullable_withNullable _ _).symm
      | delegate c =>
          have hpresent : u.nullable = false :=
            Bool.eq_false_iff.mpr fun hnull => absurd (htakes hnull) nofun
          refine (gives_ofOption c.target _).bind fun id hid => ?_
          refine (gives_true _).bind fun _ _ => (gives_true _).bind fun _ _ => ?_
          refine (gives_true _).bind fun _ _ => gives_ok ?_
          exact .delegate hmem hid hp hpresent (TypeRef.nullable_withNullable _ _)

/-! ## 2. Slots -/

section Slot

variable {c : Config} {ignoreNull : Bool} {slot : Slot} {el : ElementMapping}

/-- An element of which the absent ones are left out needs nothing more. -/
theorem nullSafe_flattened (c : Config) (ignoreNull : Bool) (slot : Slot) (el : ElementMapping) :
    ({ el with source := el.source.nonNull, onNull := none } : ElementMapping).NullSafe c ignoreNull
      slot := by
  refine ⟨⟨nofun, fun hsome => ?_⟩, nofun, nofun, nofun, nofun⟩
  exact absurd ((TypeRef.nullable_nonNull _).symm.trans hsome.1) nofun

/-- **The value of a slot** fills it. -/
theorem slot_gives (hel : el.NullSafe c ignoreNull slot) (hs : ∀ t ∈ el.strategy, t ∈ S)
    (hp : p.held? Γ = some ⟨el.source, []⟩) (ho : p.optional = el.source.nullable)
    {dropped : Value} (hdropped : dropped.Fills a S Γ el.destination) (binding label : String) :
    Gives (fun v => v.Fills a S Γ el.destination) (e.slot el p binding dropped label) := by
  unfold Emitter.slot
  cases hpolicy : el.onNull with
  | none =>
      exact (convert_gives hs hp ho (hel.takes_of_none hpolicy) el.byValue).bind fun v hv =>
        gives_ok hv.fitted
  | some policy =>
      have hnull := hel.nullable_of_policy hpolicy
      have hbinding : (Place.binding binding false).held?
          ((binding, ⟨el.source.nonNull, []⟩) :: Γ) = some ⟨el.source.nonNull, []⟩ :=
        Place.held?_binding_cons _ _ _ _
      have hpresent := TypeRef.nullable_nonNull el.source
      refine (convert_gives (a := a) (d := el.destination) hs hbinding hpresent.symm
        (fun hno => absurd (hpresent.symm.trans hno) nofun) el.byValue).bind fun v hv => ?_
      refine gives_ok ((fills_cases_iff hp hnull ?_).mpr hv.fitted)
      cases policy with
      | propagate => exact .absent ((hel.propagate_iff _ hpolicy).mp rfl)
      | guard => exact .fail
      | fallback => exact .standard
      | drop => exact hdropped

/-- The elements that one goes through, copied at once or converted one by one. -/
theorem gathered_gives (hel : el.NullSafe c ignoreNull slot) (hs : ∀ t ∈ el.strategy, t ∈ S)
    {items : Items} (hi : items.held? Γ = some el.source) (target : CollectionKind)
    (gathering : Gathering) (label : String) :
    Gives (fun v : Value => v.optional = false ∧
        (v.Fills a S Γ (.collection target el.destination false) ↔ ¬ el.Lifts))
      ((if el.strategy.isNone && el.onNull.isNone then .ok (.copies items el.byValue target)
      else do
        let v ← e.slot el (.binding "element" el.source.nullable) "element" .standard label
        return .each items "element" v target gathering) : Emit Value) := by
  split
  · rename_i h
    rw [Bool.and_eq_true, Option.isNone_iff_eq_none, Option.isNone_iff_eq_none] at h
    exact gives_ok ⟨rfl, fills_copies_iff_not_lifts hel h.1 h.2 hi⟩
  · rename_i h
    have hbinding := Place.held?_binding_cons Γ "element" ⟨el.source, []⟩ el.source.nullable
    refine (slot_gives (a := a) hel hs hbinding rfl .standard "element" label).bind fun v hv => ?_
    refine gives_ok ⟨rfl, iff_of_true (.each hi hv) fun hlifts => h ?_⟩
    rw [hlifts.1, hel.onNull_of_lifts hlifts]
    rfl

/-- **The elements of a collection** fill it, unless they are copied though they have to be lifted.
-/
theorem collection_gives (hel : el.NullSafe c ignoreNull slot) (hs : ∀ t ∈ el.strategy, t ∈ S)
    {j : CollectionKind} (hp : p.held? Γ = some ⟨.collection j el.source false, []⟩)
    (target : CollectionKind) (label : String) :
    Gives (fun v => v.optional = false ∧
        (v.Fills a S Γ (.collection target el.destination false) ↔ ¬ el.Lifts))
      (e.collection p target el label) := by
  unfold Emitter.collection
  cases hdrop : el.onNull == some .drop with
  | true =>
      have hdrop := eq_of_beq hdrop
      have hnull := hel.nullable_of_policy hdrop
      have hdest : el.destination.nullable = false := Bool.eq_false_iff.mpr fun h =>
        absurd ((hel.propagate_iff _ hdrop).mpr h) nofun
      have hitems : (Items.mk p true).held? Γ = some el.source.nonNull := by
        rw [Items.held?, hp]
        simp [hnull]
      refine (gathered_gives (nullSafe_flattened c ignoreNull slot el) hs hitems target _
        label).imp fun v hv => ⟨hv.1, hv.2.trans ?_⟩
      -- the slot of an element that is left is never empty
      simp [ElementMapping.Lifts, hdest]
  | false =>
      have hitems : (Items.mk p false).held? Γ = some el.source := by
        rw [Items.held?, hp]
        rfl
      exact gathered_gives hel hs hitems target _ label

end Slot

section Container

variable {c : Config} {ignoreNull : Bool}

/-- **The entries of a map** fill it. -/
theorem entries_gives {k v : ElementMapping} (hk : k.NullSafe c ignoreNull .map)
    (hv : v.NullSafe c ignoreNull .map) (hks : ∀ t ∈ k.strategy, t ∈ S)
    (hvs : ∀ t ∈ v.strategy, t ∈ S) {j : MapKind}
    (hp : p.held? Γ = some ⟨.map j k.source v.source false, []⟩) (target : MapKind)
    (label : String) :
    Gives (fun w => w.optional = false ∧
        w.Fills a S Γ (.map target k.destination v.destination false))
      (e.entries p target k v label) := by
  have hkey := Place.held?_binding_cons (("value", ⟨v.source, []⟩) :: Γ) "key" ⟨k.source, []⟩
    k.source.nullable
  have hvalue : (Place.binding "value" v.source.nullable).held?
      (("key", ⟨k.source, []⟩) :: ("value", ⟨v.source, []⟩) :: Γ) = some ⟨v.source, []⟩ := by
    rw [Place.held?_binding_of_ne (by decide), Place.held?_binding_cons]
  unfold Emitter.entries
  refine (slot_gives (a := a) hk hks hkey rfl .dropEntry _ _).bind fun _ hk' => ?_
  refine (slot_gives (a := a) hv hvs hvalue rfl .dropEntry _ _).bind fun _ hv' => ?_
  exact gives_ok ⟨rfl, .entries hp hk' hv'⟩

/-- The elements of a tuple from a position on. -/
theorem tupleFrom_gives {ts : List TypeRef} {els : List ElementMapping}
    (hels : ∀ el ∈ els, el.NullSafe c ignoreNull .tuple)
    (hs : ∀ el ∈ els, ∀ t ∈ el.strategy, t ∈ S)
    (hp : p.held? Γ = some ⟨.tuple ts false, []⟩) {i : Nat}
    (hts : ts.drop i = els.map ElementMapping.source) (label : String) :
    Gives (List.Forall₂ (fun el v => v.Fills a S Γ el.destination) els)
      (e.tupleFrom p label i els) := by
  induction els generalizing i with
  | nil => exact gives_ok .nil
  | cons el rest ih =>
      obtain ⟨hel, hrest⟩ := getElem?_of_drop_eq_cons hts
      unfold tupleFrom
      refine (slot_gives (a := a) (hels el List.mem_cons_self) (hs el List.mem_cons_self)
        (Place.held?_position hp hel) rfl .standard _ _).bind fun v hv => ?_
      refine (ih (fun el' h => hels el' (List.mem_cons_of_mem el h))
        (fun el' h => hs el' (List.mem_cons_of_mem el h)) hrest).bind fun vs hvs => ?_
      exact gives_ok (.cons hv hvs)

/-- **The elements of a tuple** fill it. -/
theorem tuple_gives {els : List ElementMapping} (hels : ∀ el ∈ els, el.NullSafe c ignoreNull .tuple)
    (hs : ∀ el ∈ els, ∀ t ∈ el.strategy, t ∈ S)
    (hp : p.held? Γ = some ⟨.tuple (els.map ElementMapping.source) false, []⟩) (label : String) :
    Gives (fun w => w.optional = false ∧
        w.Fills a S Γ (.tuple (els.map ElementMapping.destination) false))
      (e.tuple p els label) :=
  (tupleFrom_gives hels hs hp (i := 0) rfl label).map fun _ hvs => ⟨rfl, fills_tuple hvs⟩

end Container

/-! ## 3. Properties -/

section Property

variable {c : Config} {m : PropertyMapping} (hm : m.Built c)

include hm

/-- **The value at the end of a chain.** -/
theorem terminal_gives (h : m.At Γ p [] u) :
    Gives (fun v => v.Fills a m.strategies Γ m.destination.ty ↔ ¬ m.LiftsCopies)
      (e.terminal m p) := by
  have hs : ∀ el ∈ m.shape.elements, ∀ t ∈ el.strategy, t ∈ m.strategies :=
    fun _ hel _ ht => PropertyMapping.mem_strategies_of_element hel ht
  have hslots := hm.nullSafe.slots
  unfold terminal
  cases hshape : m.shape with
  | scalar =>
      have hown : ∀ t ∈ m.strategy, t ∈ m.strategies :=
        fun t ht => List.mem_append_left _ (Option.mem_toList.mpr ht)
      refine (convert_gives (a := a) (d := m.destination.ty) hown h.held h.optional
        (fun hnull => (h.absent hnull).2) _).bind fun v hv => gives_ok ?_
      exact iff_of_true hv.fitted (PropertyMapping.not_liftsCopies (by simp [hshape]))
  | collection s target el =>
      obtain ⟨⟨j, hp⟩, hdest⟩ := h.held_collection hm hshape
      rw [hshape] at hs hslots
      refine (collection_gives (a := a) (hslots _ List.mem_cons_self) (hs el List.mem_cons_self) hp
        target _).bind fun v hv => gives_ok ?_
      rw [PropertyMapping.liftsCopies_iff hshape, ← hv.2, ← hdest]
      exact fills_fitted_iff hv.1
  | map target k v =>
      obtain ⟨⟨j, hp⟩, hdest⟩ := h.held_map hm hshape
      rw [hshape] at hs hslots
      refine (entries_gives (a := a) (hslots _ List.mem_cons_self)
        (hslots _ (List.mem_cons_of_mem _ List.mem_cons_self)) (hs k List.mem_cons_self)
        (hs v (List.mem_cons_of_mem k List.mem_cons_self)) hp target _).bind fun w hw =>
          gives_ok ?_
      refine iff_of_true ((fills_fitted_iff hw.1).mpr (hdest ▸ hw.2)) ?_
      exact PropertyMapping.not_liftsCopies (by simp [hshape])
  | tuple els =>
      obtain ⟨hp, hdest⟩ := h.held_tuple hm hshape
      rw [hshape] at hs hslots
      have hsafe : ∀ el ∈ els, el.NullSafe c m.ignoreNull .tuple :=
        fun el hel => hslots _ (List.mem_map_of_mem hel)
      refine (tuple_gives (a := a) hsafe hs hp _).bind fun w hw => gives_ok ?_
      refine iff_of_true ((fills_fitted_iff hw.1).mpr (hdest ▸ hw.2)) ?_
      exact PropertyMapping.not_liftsCopies (by simp [hshape])

/-- **The value along the links that are left**: each link with a policy opens a case. -/
theorem along_gives {rest : List Hop} (h : m.At Γ p rest u) (i : Nat) :
    Gives (fun v => v.Fills a m.strategies Γ m.destination.ty ↔ ¬ m.LiftsCopies)
      (e.along m p i rest) := by
  induction rest generalizing Γ p u i with
  | nil => exact terminal_gives hm h
  | cons hop rest ih =>
      unfold along
      refine (spelledName_gives hop.name).bind fun name hname => ?_
      cases hpolicy : hop.onNull with
      | none => exact ih (h.field hm.nullSafe hname hpolicy) (i + 1)
      | some policy =>
          refine (gives_true _).bind fun binding _ => ?_
          refine (ih (h.binding binding) (i + 1)).bind fun v hv => gives_ok ?_
          refine (fills_cases_iff (h.held_field hname)
            (h.nullable_of_policy hm.nullSafe hpolicy) ?_).trans hv
          cases policy with
          | propagate => exact .absent (((h.nullSafe hm.nullSafe).propagate_iff _ hpolicy).mp rfl)
          | guard => exact .fail
          | fallback => exact .standard
          | drop => exact .standard

/-- A copy of an option for an option. -/
theorem fills_directCopy (hcopy : isDirectCopy m = true) {k : Mapping} {name : String}
    (hname : Code.name? m.terminal.name = some name) (byValue : Bool) :
    m.FilledBy a k "source" (.read (.field sourcePlace name m.sourceNullable) byValue) := by
  simp only [isDirectCopy, Bool.and_eq_true, Bool.not_eq_true'] at hcopy
  obtain ⟨⟨⟨⟨⟨hlen, -⟩, -⟩, hsource⟩, hdest⟩, -⟩ := hcopy
  have hne := hm.nullSafe.source_ne_nil
  have hone : m.source = [m.terminal] := by
    have hlt : ¬ 1 < m.source.length := of_decide_eq_false hlen
    have hdrop : m.source.dropLast = [] := List.eq_nil_of_length_eq_zero (by
      rw [List.length_dropLast]
      omega)
    rw [PropertyMapping.eq_append_terminal hne, hdrop]
    rfl
  have hat := PropertyMapping.At.source hne "source" k.source
  unfold PropertyMapping.FilledBy
  rw [hone] at hat ⊢
  exact .read (hat.held_field hname) (hsource.trans hdest.symm)

/-- **The value of a property fills its slot exactly if** no elements are copied that have to be
lifted. -/
theorem property_gives (k : Mapping) :
    Gives (fun v => m.FilledBy a k "source" v ↔ ¬ m.LiftsCopies) (e.property m) := by
  unfold property
  split
  · rename_i hcopy
    refine (spelledName_gives m.terminal.name).bind fun name hname => gives_ok ?_
    refine iff_of_true (fills_directCopy hm hcopy hname _) (PropertyMapping.not_liftsCopies ?_)
    simp only [isDirectCopy, Bool.and_eq_true, beq_iff_eq] at hcopy
    simp [hcopy.1.1.1.2]
  · exact along_gives hm (PropertyMapping.At.source hm.nullSafe.source_ne_nil "source" k.source) 0

end Property

/-! ## 4. Routines -/

/-- The field of a property has its name and its value. -/
theorem field_gives {c : Config} {m : PropertyMapping} (hm : m.Built c) (a : Arena) (k : Mapping) :
    Gives (fun f => Code.name? m.destination.name = some f.1 ∧
        (m.FilledBy a k "source" f.2 ↔ ¬ m.LiftsCopies)) (e.field m) := by
  unfold field
  refine (spelledName_gives _).bind fun name hname => ?_
  exact (property_gives hm k).bind fun v hv => gives_ok ⟨hname, hv⟩

/-- **The fields of the routine** of a mapping fill its properties, but for such copies. -/
theorem primary_gives {c : Config} (h : ∀ m ∈ e.mapping.properties, m.Built c) (a : Arena) :
    Gives (fun r => List.Forall₂ (fun m f => Code.name? m.destination.name = some f.1 ∧
        (m.FilledBy a e.mapping "source" f.2 ↔ ¬ m.LiftsCopies)) e.mapping.properties r.fields)
      e.primary :=
  primary_parts.imp fun _ hr =>
    gives_mapM (fun m hm => field_gives (h m hm) a e.mapping) _ hr.fields

end Emitter

end TypeMapper
