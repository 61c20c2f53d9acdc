import TypeMapper.Proofs.Absence.Primary
import TypeMapper.Proofs.Batch.Nullability
import TypeMapper.Proofs.Construction.Outputs
/-!
# What a routine loses of its source

A routine fails on an absent value that it may not keep, unless it is told to go on: then a default
stands for the value, or the element is left out. Both are read off the expressions here, with the
place where it happens, and both need a reason in the property or in the settings.

* `Loss`, `Value.losses`: the defaults and the drops in an expression, each with its place.
* `Loss.Allowed`: the reasons there are.
* `Emitter.slot_losses`, `terminal_losses`, `along_losses`: expression by expression.
* `Batch.losses_of_isValid`: the routine of an accepted mapping.
-/

namespace TypeMapper

open Value

/-! ## 1. Losses -/

/-- Where an expression stands: in a slot of a container or not, and, if it stands for a value that
was found absent, the links that one would still have read from there. -/
structure Spot where
  slot : Option Slot
  left : Option (List Hop)
  deriving DecidableEq, Repr

/-- What of the source does not get to the destination. -/
inductive Loss where
  /-- A default stands for an absent value. -/
  | replaced (spot : Spot)
  /-- Nothing stands for it. -/
  | dropped (slot : Option Slot)
  deriving DecidableEq, Repr

/-- The bindings with one more; if nothing is known of its value, its name is not known either. -/
def Bindings.bound (Γ : Bindings) (name : String) : Option Held → Bindings
  | some h => (name, h) :: Γ
  | none => Γ.filter fun q => q.1 != name

/-- The value of an option at a place, once it is there. -/
def Place.inner? (Γ : Bindings) (p : Place) : Option Held :=
  (p.held? Γ).map fun h => ⟨h.ty.nonNull, h.links⟩

/-- Elements of which the absent ones are left out. -/
def Items.losses (i : Items) : List Loss :=
  if i.flattened then [.dropped (some .collection)] else []

namespace Value

mutual

/-- The losses of an expression at a spot, in the order of the text. -/
def losses : Value → Bindings → Spot → List Loss
  | standard, _, spot => [.replaced spot]
  | present v, Γ, spot => losses v Γ spot
  | orStandard v, Γ, spot => losses v Γ spot ++ [.replaced ⟨spot.slot, none⟩]
  | required v, Γ, spot => losses v Γ spot ++ [.dropped spot.slot]
  | dropEntry, _, spot => [.dropped spot.slot]
  | cases p binding v otherwise, Γ, spot =>
    losses v (Γ.bound binding (p.inner? Γ)) spot
      ++ losses otherwise Γ ⟨spot.slot, (p.held? Γ).map Held.links⟩
  | mapped p binding v, Γ, spot => losses v (Γ.bound binding (p.inner? Γ)) spot
  | chained p binding v, Γ, spot => losses v (Γ.bound binding (p.inner? Γ)) spot
  | copies items _ _, _, _ => items.losses
  | each items binding v _ _, Γ, _ =>
    items.losses ++ losses v (Γ.bound binding ((items.held? Γ).map fun t => ⟨t, []⟩))
      ⟨some .collection, none⟩
  | entries _ keyBinding valueBinding key value _ _, Γ, _ =>
    let Γ := (Γ.bound valueBinding none).bound keyBinding none
    losses key Γ ⟨some .map, none⟩ ++ losses value Γ ⟨some .map, none⟩
  | tuple vs, Γ, _ => lossesOf vs Γ
  | inlined _ _ binding _ v, Γ, spot => losses v (Γ.bound binding none) spot
  | construct _ fields isOpen, Γ, spot =>
    fieldLosses fields Γ spot ++ if isOpen then [.replaced spot] else []
  | read .., _, _ | absent, _, _ | fail _, _, _ | method .., _, _ | resolve .., _, _
  | delegate .., _, _ => []

/-- The losses of the elements of a tuple. -/
def lossesOf : List Value → Bindings → List Loss
  | [], _ => []
  | v :: rest, Γ => losses v Γ ⟨some .tuple, none⟩ ++ lossesOf rest Γ

/-- The losses of fields. -/
def fieldLosses : List (String × Value) → Bindings → Spot → List Loss
  | [], _, _ => []
  | (_, v) :: rest, Γ, spot => losses v Γ spot ++ fieldLosses rest Γ spot

end

section Equations

variable (Γ : Bindings) (spot : Spot) (v w : Value) (p : Place) (binding : String) (items : Items)

@[simp] theorem losses_standard : standard.losses Γ spot = [.replaced spot] := rfl

@[simp] theorem losses_present : (present v).losses Γ spot = v.losses Γ spot := rfl

@[simp] theorem losses_orStandard :
    (orStandard v).losses Γ spot = v.losses Γ spot ++ [.replaced ⟨spot.slot, none⟩] := rfl

@[simp] theorem losses_dropEntry : dropEntry.losses Γ spot = [.dropped spot.slot] := rfl

@[simp] theorem losses_cases : (Value.cases p binding v w).losses Γ spot =
    v.losses (Γ.bound binding (p.inner? Γ)) spot
      ++ w.losses Γ ⟨spot.slot, (p.held? Γ).map Held.links⟩ := rfl

@[simp] theorem losses_copies (byValue : Bool) (target : CollectionKind) :
    (copies items byValue target).losses Γ spot = items.losses := rfl

@[simp] theorem losses_each (target : CollectionKind) (gathering : Gathering) :
    (each items binding v target gathering).losses Γ spot =
      items.losses ++ v.losses (Γ.bound binding ((items.held? Γ).map fun t => ⟨t, []⟩))
        ⟨some .collection, none⟩ := rfl

@[simp] theorem losses_entries (keyBinding valueBinding : String) (target : MapKind)
    (gathering : Gathering) :
    (Value.entries p keyBinding valueBinding v w target gathering).losses Γ spot =
      v.losses ((Γ.bound valueBinding none).bound keyBinding none) ⟨some .map, none⟩
        ++ w.losses ((Γ.bound valueBinding none).bound keyBinding none) ⟨some .map, none⟩ := rfl

@[simp] theorem losses_tuple (vs : List Value) : (tuple vs).losses Γ spot = lossesOf vs Γ := rfl

@[simp] theorem lossesOf_nil : lossesOf [] Γ = [] := rfl

@[simp] theorem lossesOf_cons (vs : List Value) :
    lossesOf (v :: vs) Γ = v.losses Γ ⟨some .tuple, none⟩ ++ lossesOf vs Γ := rfl

end Equations

end Value

/-- **The reasons for a loss** in the value of a property: a default stands for an absent value if
the property ignores absence, or at the end of the chain for a collection or a map; an element is
left out of a collection or a map if the property ignores absence or absent elements are
accepted. -/
def Loss.Allowed (c : Config) (p : PropertyMapping) : Loss → Prop
  | .replaced spot =>
    p.ignoreNull = true ∨ (spot = ⟨none, some []⟩ ∧ p.shape.absorbsNull = true)
  | .dropped slot => (slot = some .collection ∨ slot = some .map) ∧
    (p.ignoreNull = true ∨ c.throwOnNullElement = false)

/-- There is a reason for every loss of an expression. -/
def Value.LosesAllowed (c : Config) (m : PropertyMapping) (Γ : Bindings) (spot : Spot)
    (v : Value) : Prop := ∀ l ∈ v.losses Γ spot, l.Allowed c m

section Losses

variable {c : Config} {m : PropertyMapping} {Γ : Bindings} {spot : Spot} {v w : Value} {p : Place}
  {binding : String}

theorem Value.LosesAllowed.of_nil (h : v.losses Γ spot = []) : v.LosesAllowed c m Γ spot := by
  intro l hl
  rw [h] at hl
  exact absurd hl List.not_mem_nil

theorem Value.LosesAllowed.cases (hv : v.LosesAllowed c m (Γ.bound binding (p.inner? Γ)) spot)
    (hw : w.LosesAllowed c m Γ ⟨spot.slot, (p.held? Γ).map Held.links⟩) :
    (Value.cases p binding v w).LosesAllowed c m Γ spot := by
  intro l hl
  rw [losses_cases] at hl
  exact (List.mem_append.mp hl).elim (hv l) (hw l)

/-- What is fitted loses something more only if it is an option for what is always there. -/
theorem Value.losses_fitted {wanted : Bool} (h : v.losses Γ spot = []) :
    ∀ l ∈ (v.fitted wanted).losses Γ spot,
      l = .replaced ⟨spot.slot, none⟩ ∧ v.optional = true ∧ wanted = false := by
  intro l hl
  unfold Value.fitted at hl
  split at hl
  · rename_i hv
    rw [losses_orStandard, h, List.nil_append] at hl
    exact ⟨List.mem_singleton.mp hl, hv, rfl⟩
  · rw [losses_present, h] at hl
    exact absurd hl List.not_mem_nil
  · rw [h] at hl
    exact absurd hl List.not_mem_nil

/-- So there is a reason for it if there is one for every option. -/
theorem Value.LosesAllowed.fitted {wanted : Bool} (h : v.losses Γ spot = [])
    (hv : v.optional = true → wanted = true ∨ m.ignoreNull = true) :
    (v.fitted wanted).LosesAllowed c m Γ spot := by
  intro l hl
  obtain ⟨rfl, hoptional, hwanted⟩ := losses_fitted h l hl
  rcases hv hoptional with hyes | hignore
  · exact absurd (hyes.symm.trans hwanted) Bool.noConfusion
  · exact .inl hignore

/-- A container is no option. -/
theorem Value.LosesAllowed.fitted_container {wanted : Bool} (h : v.LosesAllowed c m Γ spot)
    (hv : v.optional = false) : (v.fitted wanted).LosesAllowed c m Γ spot := by
  unfold Value.fitted
  rw [hv]
  cases wanted with
  | true =>
      intro l hl
      rw [losses_present] at hl
      exact h l hl
  | false => exact h

end Losses

namespace Emitter

variable {e : Emitter} {c : Config} {m : PropertyMapping} {p : Place} {s : Option Strategy}
  {d : TypeRef} {slot : Slot} {el : ElementMapping}

/-! ## 2. Conversions and slots -/

/-- **A conversion** loses nothing; it is an option for what is always there only if absence is
ignored. -/
theorem convert_losses (hs : ∀ t ∈ s, t.Yields m.ignoreNull d)
    (hp : p.optional = true → ∃ t ∈ s, t.acceptsNull = true) (byValue : Bool) :
    Gives (fun v : Value => (∀ Γ spot, v.losses Γ spot = []) ∧
        (v.optional = true → d.nullable = true ∨ m.ignoreNull = true))
      (e.convert s p byValue) := by
  unfold convert
  cases s with
  | none =>
      refine gives_ok ⟨fun _ _ => rfl, fun hoptional => ?_⟩
      obtain ⟨t, ht, -⟩ := hp hoptional
      cases ht
  | some t =>
      cases t with
      | method q =>
          refine (gives_true _).bind fun _ _ => (gives_true _).bind fun _ _ => ?_
          refine (gives_true _).bind fun _ _ => gives_ok ⟨fun _ _ => rfl, ?_⟩
          exact (hs _ rfl _ rfl).2
      | resolver q =>
          refine (gives_true _).bind fun _ _ => (gives_true _).bind fun _ _ => ?_
          refine (gives_true _).bind fun _ _ => gives_ok ⟨fun _ _ => rfl, ?_⟩
          exact (hs _ rfl _ rfl).2
      | delegate q =>
          refine (gives_true _).bind fun _ _ => (gives_true _).bind fun _ _ => ?_
          refine (gives_true _).bind fun _ _ => (gives_true _).bind fun _ _ => ?_
          exact gives_ok ⟨fun _ _ => rfl, nofun⟩

/-- **The value of a slot** has reasons for its losses if what stands for a dropped one has. -/
theorem slot_losses (hel : el.NullSafe c m.ignoreNull slot) (hs : el.Yields m.ignoreNull)
    (hp : p.optional = el.source.nullable) {dropped : Value}
    (hdropped : el.onNull = some .drop →
      ∀ Γ left, dropped.LosesAllowed c m Γ ⟨some slot, left⟩) (binding label : String) :
    Gives (fun v => ∀ Γ, v.LosesAllowed c m Γ ⟨some slot, none⟩)
      (e.slot el p binding dropped label) := by
  unfold Emitter.slot
  cases hpolicy : el.onNull with
  | none =>
      refine (convert_losses hs (fun ho => hel.takes_of_none hpolicy (hp.symm.trans ho))
        el.byValue).bind fun v hv => gives_ok fun Γ => ?_
      exact .fitted (hv.1 Γ _) hv.2
  | some policy =>
      refine (convert_losses (p := .binding binding false) hs nofun el.byValue).bind fun v hv =>
        gives_ok fun Γ => .cases (.fitted (hv.1 _ _) hv.2) ?_
      cases policy with
      | propagate => exact .of_nil rfl
      | guard => exact .of_nil rfl
      | fallback =>
          intro l hl
          rw [absentValue, losses_standard, List.mem_singleton] at hl
          exact hl ▸ .inl (hel.fallback hpolicy).2
      | drop => exact hdropped hpolicy Γ _

/-! ## 3. Containers -/

/-- The elements that one goes through: those left out, and what becomes of the others. -/
theorem gathered_losses (hel : el.NullSafe c m.ignoreNull .collection)
    (hs : el.Yields m.ignoreNull) (hdrop : el.onNull ≠ some .drop) {items : Items}
    (hitems : ∀ l ∈ items.losses, l.Allowed c m) (target : CollectionKind) (gathering : Gathering)
    (label : String) :
    Gives (fun v : Value => v.optional = false ∧ ∀ Γ spot, v.LosesAllowed c m Γ spot)
      ((if el.strategy.isNone && el.onNull.isNone then .ok (.copies items el.byValue target)
      else do
        let v ← e.slot el (.binding "element" el.source.nullable) "element" .standard label
        return .each items "element" v target gathering) : Emit Value) := by
  split
  · refine gives_ok ⟨rfl, fun Γ spot l hl => ?_⟩
    rw [losses_copies] at hl
    exact hitems l hl
  · refine (slot_losses (c := c) (m := m) hel hs rfl (fun h => absurd h hdrop) _ _).bind
      fun v hv => gives_ok ⟨rfl, fun Γ spot l hl => ?_⟩
    rw [losses_each] at hl
    exact (List.mem_append.mp hl).elim (hitems l) (hv _ l)

/-- **The elements of a collection**: absent ones are left out only with a reason. -/
theorem collection_losses (hel : el.NullSafe c m.ignoreNull .collection)
    (hs : el.Yields m.ignoreNull) (target : CollectionKind) (label : String) :
    Gives (fun v : Value => v.optional = false ∧ ∀ Γ spot, v.LosesAllowed c m Γ spot)
      (e.collection p target el label) := by
  unfold Emitter.collection
  cases hdrop : el.onNull == some .drop with
  | true =>
      refine gathered_losses (nullSafe_flattened c m.ignoreNull .collection el) hs nofun
        (fun l hl => ?_) target _ label
      obtain rfl : l = .dropped (some .collection) := List.mem_singleton.mp hl
      exact ⟨.inl rfl, (hel.drop (eq_of_beq hdrop)).2⟩
  | false =>
      exact gathered_losses hel hs (ne_of_beq_false hdrop)
        (fun l hl => absurd hl List.not_mem_nil) target _ label

/-- **The entries of a map**: one with an absent slot is left out only with a reason. -/
theorem entries_losses {k v : ElementMapping} (hk : k.NullSafe c m.ignoreNull .map)
    (hv : v.NullSafe c m.ignoreNull .map) (hks : k.Yields m.ignoreNull)
    (hvs : v.Yields m.ignoreNull) (target : MapKind) (label : String) :
    Gives (fun w : Value => w.optional = false ∧ ∀ Γ spot, w.LosesAllowed c m Γ spot)
      (e.entries p target k v label) := by
  have hdropped {el : ElementMapping} (hel : el.NullSafe c m.ignoreNull .map)
      (hdrop : el.onNull = some .drop) (Γ : Bindings) (left : Option (List Hop)) :
      Value.dropEntry.LosesAllowed c m Γ ⟨some .map, left⟩ := fun l hl => by
    rw [losses_dropEntry, List.mem_singleton] at hl
    exact hl ▸ ⟨.inr rfl, (hel.drop hdrop).2⟩
  unfold Emitter.entries
  refine (slot_losses (c := c) (m := m) hk hks rfl (hdropped hk) _ _).bind fun key hkey => ?_
  refine (slot_losses (c := c) (m := m) hv hvs rfl (hdropped hv) _ _).bind fun value hvalue => ?_
  refine gives_ok ⟨rfl, fun Γ spot l hl => ?_⟩
  rw [losses_entries] at hl
  exact (List.mem_append.mp hl).elim (hkey _ l) (hvalue _ l)

theorem tupleFrom_losses {els : List ElementMapping}
    (hels : ∀ el ∈ els, el.NullSafe c m.ignoreNull .tuple) (hs : ∀ el ∈ els, el.Yields m.ignoreNull)
    (i : Nat) (label : String) :
    Gives (fun vs => ∀ Γ, ∀ l ∈ lossesOf vs Γ, l.Allowed c m) (e.tupleFrom p label i els) := by
  induction els generalizing i with
  | nil =>
      refine gives_ok fun Γ l hl => ?_
      rw [lossesOf_nil] at hl
      exact absurd hl List.not_mem_nil
  | cons el rest ih =>
      have hel := hels el List.mem_cons_self
      unfold tupleFrom
      refine (slot_losses (c := c) (m := m) hel (hs el List.mem_cons_self) rfl
        (fun h => absurd rfl (hel.drop h).1) _ _).bind fun v hv => ?_
      refine (ih (fun el' h => hels el' (List.mem_cons_of_mem el h))
        (fun el' h => hs el' (List.mem_cons_of_mem el h)) (i + 1)).bind fun vs hvs => ?_
      refine gives_ok fun Γ l hl => ?_
      rw [lossesOf_cons] at hl
      exact (List.mem_append.mp hl).elim (hv Γ l) (hvs Γ l)

/-- **The elements of a tuple**: none is left out. -/
theorem tuple_losses {els : List ElementMapping}
    (hels : ∀ el ∈ els, el.NullSafe c m.ignoreNull .tuple) (hs : ∀ el ∈ els, el.Yields m.ignoreNull)
    (label : String) :
    Gives (fun w : Value => w.optional = false ∧ ∀ Γ spot, w.LosesAllowed c m Γ spot)
      (e.tuple p els label) := by
  refine (tupleFrom_losses (c := c) hels hs 0 label).map fun vs hvs =>
    ⟨rfl, fun Γ spot l hl => hvs Γ l ?_⟩
  rwa [losses_tuple] at hl

/-! ## 4. Properties -/

section Property

variable {Γ : Bindings} {u : TypeRef} (hm : m.Built c) (hy : m.Yields)

include hm hy

/-- **The value at the end of a chain.** -/
theorem terminal_losses (h : m.At Γ p [] u) :
    Gives (fun v => v.LosesAllowed c m Γ ⟨none, none⟩) (e.terminal m p) := by
  have hslots := hm.nullSafe.slots
  have hyields := hy.slots
  unfold terminal
  cases hshape : m.shape with
  | scalar =>
      refine (convert_losses (m := m) (d := m.destination.ty) hy.whole
        (fun ho => (h.absent (h.optional.symm.trans ho)).2) _).bind fun v hv => gives_ok ?_
      exact .fitted (hv.1 Γ _) hv.2
  | collection s target el =>
      rw [hshape] at hslots hyields
      refine (collection_losses (hslots _ List.mem_cons_self) (hyields el List.mem_cons_self)
        target _).bind fun v hv => gives_ok ?_
      exact (hv.2 Γ _).fitted_container hv.1
  | map target k v =>
      rw [hshape] at hslots hyields
      refine (entries_losses (hslots _ List.mem_cons_self)
        (hslots _ (List.mem_cons_of_mem _ List.mem_cons_self)) (hyields k List.mem_cons_self)
        (hyields v (List.mem_cons_of_mem k List.mem_cons_self)) target _).bind fun w hw =>
          gives_ok ?_
      exact (hw.2 Γ _).fitted_container hw.1
  | tuple els =>
      rw [hshape] at hslots hyields
      have hsafe : ∀ el ∈ els, el.NullSafe c m.ignoreNull .tuple :=
        fun el hel => hslots _ (List.mem_map_of_mem hel)
      refine (tuple_losses hsafe hyields _).bind fun w hw => gives_ok ?_
      exact (hw.2 Γ _).fitted_container hw.1

/-- **The value along the links that are left**: a default stands for the value of a link only if
absence is ignored, or at the end for a container that may be empty. -/
theorem along_losses {rest : List Hop} (h : m.At Γ p rest u) (i : Nat) :
    Gives (fun v => v.LosesAllowed c m Γ ⟨none, none⟩) (e.along m p i rest) := by
  induction rest generalizing Γ p u i with
  | nil => exact terminal_losses hm hy h
  | cons hop rest ih =>
      unfold along
      refine (spelledName_gives hop.name).bind fun name hname => ?_
      cases hpolicy : hop.onNull with
      | none => exact ih (h.field hm.nullSafe hname hpolicy) (i + 1)
      | some policy =>
          have hheld := h.held_field hname
          have hsafe := h.nullSafe hm.nullSafe
          refine (gives_true _).bind fun binding _ => ?_
          refine (ih (h.binding binding) (i + 1)).bind fun v hv => gives_ok (.cases ?_ ?_)
          · rwa [Place.inner?, hheld]
          · rw [hheld]
            cases policy with
            | propagate => exact .of_nil rfl
            | guard => exact .of_nil rfl
            | drop => exact absurd hpolicy hsafe.drop
            | fallback =>
                intro l hl
                have hdefault : ∀ path, e.absentHop .fallback path = .standard := fun _ => rfl
                rw [hdefault, losses_standard, List.mem_singleton] at hl
                rw [hl]
                refine (hsafe.fallback hpolicy).imp_right (And.imp_left fun hrest => ?_)
                rw [hrest]
                rfl

/-- **The value of a property** has reasons for all of its losses. -/
theorem property_losses (path : String) :
    Gives (fun v => v.LosesAllowed c m [("source", ⟨.object path false, m.source⟩)] ⟨none, none⟩)
      (e.property m) := by
  unfold property
  split
  · exact (gives_true _).bind fun _ _ => gives_ok (.of_nil rfl)
  · exact along_losses hm hy (PropertyMapping.At.source hm.nullSafe.source_ne_nil "source" path) 0

end Property

/-! ## 5. Routines -/

/-- **The fields of the routine** of a mapping have the names of its properties, and reasons for
their losses. -/
theorem primary_losses (hm : ∀ m ∈ e.mapping.properties, m.Built c)
    (hy : ∀ m ∈ e.mapping.properties, m.Yields) :
    Gives (fun r => List.Forall₂ (fun m f => Code.name? m.destination.name = some f.1 ∧
        f.2.LosesAllowed c m [("source", ⟨.object e.mapping.source false, m.source⟩)] ⟨none, none⟩)
        e.mapping.properties r.fields) e.primary := by
  refine primary_parts.imp fun r hr => gives_mapM (fun m hmem => ?_) _ hr.fields
  unfold field
  refine (spelledName_gives _).bind fun name hname => ?_
  exact (property_losses (hm m hmem) (hy m hmem) _).bind fun v hv => gives_ok ⟨hname, hv⟩

end Emitter

namespace Batch

/-- **The routine of an accepted mapping puts a default for an absent value, or leaves an element
out, only with a reason**, whatever the schema and the settings are. -/
theorem losses_of_isValid {s : Schema} {c : Config} {id : MappingId} {m : Mapping}
    (h : (discover s c).arena.get? id = some m) (hv : m.isValid = true) {r : PrimaryRoutine}
    (hr : (Emitter.ofArena (discover s c).arena c (RoutineNames.ofArena (discover s c).arena) id
      m).primary = .ok r) :
    List.Forall₂ (fun p f => Code.name? p.destination.name = some f.1 ∧
      ∀ l ∈ f.2.losses [("source", ⟨.object m.source false, p.source⟩)] ⟨none, none⟩,
        l.Allowed c p) m.properties r.fields :=
  Emitter.primary_losses (built_of_isValid h hv) (yields_of_isValid h hv) r hr

/-- A form with a name that may be absent and is ignored then, with tags that may be absent as a
whole and each on its own, and with a size; a card with all of them for sure. -/
def formSchema : Schema :=
  Schema.ofLists
    [⟨"app::Form", none, false, true, [⟨"name", text true, false, ⟨true, true⟩,
        [⟨.ignoreNullIncompatibility, none⟩]⟩, tags true, size], [⟨.mapTo "app::Card", none⟩], []⟩,
      ⟨"app::Card", none, false, true, [⟨"name", text false, false, ⟨true, true⟩, []⟩, tags false,
        size], [], []⟩] []
where
  /-- A text that may be absent or not. -/
  text (optional : Bool) : TypeRef := .scalar "String" false optional
  /-- Tags that may be absent or not. -/
  tags (optional : Bool) : Property :=
    ⟨"tags", .collection .list (text optional) optional, false, ⟨true, true⟩, []⟩
  /-- A number. -/
  size : Property := ⟨"size", .scalar "u32" true false, true, ⟨true, true⟩, []⟩

/-- Settings under which absent elements are left out. -/
def lenientConfig : Config := { Config.standard with throwOnNullElement := false }

/-- A default stands for the absent name and for the absent tags, and absent tags are left out;
there is a reason for each. -/
theorem losses_of_form : ∃ m r, (discover formSchema lenientConfig).arena.get? 0 = some m ∧
    m.isValid = true ∧
    (Emitter.ofArena (discover formSchema lenientConfig).arena lenientConfig
      (RoutineNames.ofArena (discover formSchema lenientConfig).arena) 0 m).primary = .ok r ∧
    List.zipWith (fun (p : PropertyMapping) (f : String × Value) =>
        f.2.losses [("source", ⟨.object m.source false, p.source⟩)] ⟨none, none⟩)
      m.properties r.fields =
      [[.replaced ⟨none, some []⟩], [.dropped (some .collection), .replaced ⟨none, some []⟩], []] ∧
    List.Forall₂ (fun p f => Code.name? p.destination.name = some f.1 ∧
      ∀ l ∈ f.2.losses [("source", ⟨.object m.source false, p.source⟩)] ⟨none, none⟩,
        l.Allowed lenientConfig p) m.properties r.fields := by
  have hreport : ((discover formSchema lenientConfig).arena.get? 0).map (fun m => (m.isValid,
      (Emitter.ofArena (discover formSchema lenientConfig).arena lenientConfig
        (RoutineNames.ofArena (discover formSchema lenientConfig).arena) 0 m).primary.toOption.map
          fun r => List.zipWith (fun (p : PropertyMapping) (f : String × Value) =>
            f.2.losses [("source", ⟨.object m.source false, p.source⟩)] ⟨none, none⟩)
          m.properties r.fields)) =
      some (true, some [[.replaced ⟨none, some []⟩],
        [.dropped (some .collection), .replaced ⟨none, some []⟩], []]) := by
    decide +kernel
  obtain ⟨m, hm, hfields⟩ := Option.map_eq_some_iff.mp hreport
  rw [Prod.mk.injEq] at hfields
  obtain ⟨hv, hlosses⟩ := hfields
  obtain ⟨r, hr, hlosses⟩ := Option.map_eq_some_iff.mp hlosses
  have hr := eq_ok_of_toOption hr
  exact ⟨m, r, hm, hv, hr, hlosses, losses_of_isValid hm hv hr⟩

end Batch

end TypeMapper
