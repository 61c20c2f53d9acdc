import TypeMapper.Proofs.Absence.Primary
import TypeMapper.Proofs.Arena.Reachability
import TypeMapper.Proofs.Routine.Projection
/-!
# Absence in the projection of a mapping

The projection knows the options by the policies alone: it converts a value only where it is there,
and puts it into an option where the policy keeps absent values. It copies elements at once as the
routine does, and so do the literals that are written out in it.

* `Inliner.Fills`: calls are written out as values that fill their slots.
* `Inliner.slot_gives`, `collection_gives`, `along_gives`: slots, elements and properties.
* `Emitter.literalFrom_gives`: the literal of a mapping, by induction on the levels below it.
-/

namespace TypeMapper

open Value

namespace Inliner

/-- The calls of strategies are written out as values that fill the slots of present values. -/
def Fills (a : Arena) (S : List Strategy) (inline : Inliner) : Prop :=
  ∀ c, Strategy.delegate c ∈ S → ∀ Γ p u d, p.held? Γ = some ⟨u, []⟩ → u.nullable = false →
    d.nullable = false → Gives (fun v => v.Fills a S Γ d) (inline c p)

variable {inline : Inliner} {a : Arena} {S : List Strategy} {Γ : Bindings} {u d : TypeRef}
  {p : Place} {s : Option Strategy}

/-! ## 1. Slots -/

/-- **A conversion** gives a value that is there; a helper is no conversion here. -/
theorem convert_gives (hi : inline.Fills a S) (hs : ∀ t ∈ s, t ∈ S)
    (hp : p.held? Γ = some ⟨u, []⟩)
    (hu : u.nullable = true → ∃ t ∈ s, t.acceptsNull = true) (byValue : Bool) :
    Gives (fun v => v.Fills a S Γ d.nonNull) (inline.convert s p byValue) := by
  have hd := TypeRef.nullable_nonNull d
  unfold convert
  cases s with
  | none =>
      have hpresent : u.nullable = false := Bool.eq_false_iff.mpr fun hnull => by
        obtain ⟨t, ht, -⟩ := hu hnull
        cases ht
      exact gives_ok (.read hp (hpresent.trans hd.symm))
  | some t =>
      cases t with
      | delegate c =>
          have hpresent : u.nullable = false := Bool.eq_false_iff.mpr fun hnull => by
            obtain ⟨t, ht, htakes⟩ := hu hnull
            rw [← Option.some.inj ht] at htakes
            cases htakes
          exact hi c (hs _ rfl) Γ p u _ hp hpresent hd
      | method c => exact gives_error _
      | resolver c => exact gives_error _

/-- Where absent values are left out, there is a policy, and the slot is never empty. -/
theorem not_nullable_of_leavesOut {c : Config} {ignoreNull : Bool} {slot : Slot}
    {el : ElementMapping} (hel : el.NullSafe c ignoreNull slot) (h : leavesOut el = true) :
    (∃ policy, el.onNull = some policy) ∧ el.destination.nullable = false := by
  rw [leavesOut, Bool.or_eq_true, beq_iff_eq, beq_iff_eq] at h
  refine ⟨?_, Bool.eq_false_iff.mpr fun hdest => ?_⟩
  · rcases h with h | h <;> exact ⟨_, h⟩
  · rcases h with h | h <;> exact absurd ((hel.propagate_iff _ h).mpr hdest) nofun

section Slot

variable {c : Config} {ignoreNull : Bool} {slot : Slot} {el : ElementMapping}
  (hi : inline.Fills a S) (hel : el.NullSafe c ignoreNull slot) (hs : ∀ t ∈ el.strategy, t ∈ S)

include hi hel hs

/-- The present value of a slot, as the policy of the slot wants it. -/
theorem slotValue_gives {policy : NullPolicy} (hpolicy : el.onNull = some policy) (Γ : Bindings)
    (binding : String) :
    Gives (fun v => v.Fills a S ((binding, ⟨el.source.nonNull, []⟩) :: Γ) el.destination)
      (inline.slotValue el binding) := by
  have hkeeps : (el.onNull == some .propagate) = el.destination.nullable := by
    rw [hpolicy, Bool.eq_iff_iff, beq_iff_eq, Option.some.injEq, hel.propagate_iff _ hpolicy]
  have hpresent := TypeRef.nullable_nonNull el.source
  unfold slotValue
  rw [hkeeps]
  refine (convert_gives (d := el.destination) hi hs (Place.held?_binding_cons Γ _ _ _)
    (fun hno => absurd (hpresent.symm.trans hno) nofun) _).bind fun v hv => ?_
  exact gives_ok (fills_lifted_iff.mpr hv)

/-- **The value of a slot** fills it. -/
theorem slot_gives (hp : p.held? Γ = some ⟨el.source, []⟩) (binding : String) :
    Gives (fun v => v.Fills a S Γ el.destination) (inline.slot el p binding) := by
  unfold Inliner.slot
  split
  · rename_i hnone
    exact (convert_gives hi hs hp (hel.takes_of_none hnone) _).bind fun v hv =>
      gives_ok (fills_lifted_iff.mpr hv)
  · rename_i hpolicy
    refine (slotValue_gives hi hel hs hpolicy Γ binding).bind fun v hv => gives_ok ?_
    exact .chained hp (hel.nullable_of_policy hpolicy) ((hel.propagate_iff _ hpolicy).mp rfl) hv
  · rename_i policy hother hpolicy
    have hdest : el.destination.nullable = false := Bool.eq_false_iff.mpr fun hdest =>
      hother ((hel.propagate_iff _ hpolicy).mpr hdest)
    refine (slotValue_gives hi hel hs hpolicy Γ binding).bind fun v hv => gives_ok ?_
    exact (fills_orStandard_mapped_iff hp (hel.nullable_of_policy hpolicy) hdest).mpr hv

/-- **The value of a slot of a map**: where it is absent, the entry is left out. -/
theorem mapSlot_gives {binding : String}
    (hp : (Place.binding binding el.source.nullable).held? Γ = some ⟨el.source, []⟩) :
    Gives (fun v => v.Fills a S Γ el.destination) (inline.mapSlot el binding) := by
  unfold mapSlot
  dsimp only
  split
  · rename_i hout
    obtain ⟨⟨policy, hpolicy⟩, hdest⟩ := not_nullable_of_leavesOut hel hout
    have hnull := hel.nullable_of_policy hpolicy
    refine (slotValue_gives hi hel hs hpolicy Γ binding).bind fun v hv => gives_ok ?_
    refine .required hdest (.mapped hp hnull (TypeRef.nullable_withNullable _ _) ?_)
    rwa [TypeRef.nonNull_withNullable, TypeRef.nonNull_of_not_nullable hdest]
  · exact slot_gives hi hel hs hp binding

/-- **The elements of a collection** fill it, unless they are copied though they have to be lifted.
-/
theorem collection_gives {j : CollectionKind}
    (hp : p.held? Γ = some ⟨.collection j el.source false, []⟩) (depth : Nat)
    (target : CollectionKind) :
    Gives (fun v => v.Fills a S Γ (.collection target el.destination false) ↔ ¬ el.Lifts)
      (inline.collection depth p target el) := by
  unfold Inliner.collection
  dsimp only
  cases hout : leavesOut el with
  | true =>
      obtain ⟨⟨policy, hpolicy⟩, hdest⟩ := not_nullable_of_leavesOut hel hout
      have hitems : (Items.mk p true).held? Γ = some el.source.nonNull := by
        rw [Items.held?, hp]
        simp [hel.nullable_of_policy hpolicy]
      have hnot : ¬ el.Lifts := fun hlifts => Bool.false_ne_true (hdest.symm.trans hlifts.2.2)
      split
      · refine gives_ok (iff_of_true (.copies hitems ?_) hnot)
        rw [TypeRef.nullable_nonNull, hdest]
      · refine (slotValue_gives hi hel hs hpolicy Γ _).bind fun v hv => gives_ok ?_
        exact iff_of_true (.each hitems hv) hnot
  | false =>
      have hitems : (Items.mk p false).held? Γ = some el.source := by
        rw [Items.held?, hp]
        rfl
      split
      · rename_i h
        rw [Bool.or_false, Bool.and_eq_true, Option.isNone_iff_eq_none,
          Option.isNone_iff_eq_none] at h
        exact gives_ok (fills_copies_iff_not_lifts hel h.1 h.2 hitems)
      · rename_i h
        refine (slot_gives hi hel hs (Place.held?_binding_cons Γ _ _ _) _).bind fun v hv =>
          gives_ok (iff_of_true (.each hitems hv) fun hlifts => h ?_)
        rw [hlifts.1, hel.onNull_of_lifts hlifts]
        rfl

end Slot

section Container

variable {c : Config} {ignoreNull : Bool} (hi : inline.Fills a S)

include hi

/-- **The entries of a map** fill it. -/
theorem entries_gives {k v : ElementMapping} (hk : k.NullSafe c ignoreNull .map)
    (hv : v.NullSafe c ignoreNull .map) (hks : ∀ t ∈ k.strategy, t ∈ S)
    (hvs : ∀ t ∈ v.strategy, t ∈ S) {j : MapKind}
    (hp : p.held? Γ = some ⟨.map j k.source v.source false, []⟩) (depth : Nat) (target : MapKind) :
    Gives (fun w => w.Fills a S Γ (.map target k.destination v.destination false))
      (inline.entries depth p target k v) := by
  have hne : atDepth "value" depth ≠ atDepth "key" depth := fun h => by
    have hchars := congrArg (fun s => s.toList.head?) h
    simp [atDepth] at hchars
  have hkey := Place.held?_binding_cons ((atDepth "value" depth, ⟨v.source, []⟩) :: Γ)
    (atDepth "key" depth) ⟨k.source, []⟩ k.source.nullable
  have hvalue : (Place.binding (atDepth "value" depth) v.source.nullable).held?
      ((atDepth "key" depth, ⟨k.source, []⟩) :: (atDepth "value" depth, ⟨v.source, []⟩) :: Γ) =
        some ⟨v.source, []⟩ := by
    rw [Place.held?_binding_of_ne hne, Place.held?_binding_cons]
  refine (mapSlot_gives hi hk hks hkey).bind fun _ hk' => ?_
  exact (mapSlot_gives hi hv hvs hvalue).bind fun _ hv' => gives_ok (.entries hp hk' hv')

/-- The elements of a tuple from a position on. -/
theorem tupleFrom_gives {ts : List TypeRef} {els : List ElementMapping}
    (hels : ∀ el ∈ els, el.NullSafe c ignoreNull .tuple)
    (hs : ∀ el ∈ els, ∀ t ∈ el.strategy, t ∈ S)
    (hp : p.held? Γ = some ⟨.tuple ts false, []⟩) {i : Nat}
    (hts : ts.drop i = els.map ElementMapping.source) (depth : Nat) :
    Gives (List.Forall₂ (fun el v => v.Fills a S Γ el.destination) els)
      (inline.tupleFrom depth p i els) := by
  induction els generalizing i with
  | nil => exact gives_ok .nil
  | cons el rest ih =>
      obtain ⟨hel, hrest⟩ := getElem?_of_drop_eq_cons hts
      unfold tupleFrom
      refine (slot_gives hi (hels el List.mem_cons_self) (hs el List.mem_cons_self)
        (Place.held?_position hp hel) _).bind fun v hv => ?_
      refine (ih (fun el' h => hels el' (List.mem_cons_of_mem el h))
        (fun el' h => hs el' (List.mem_cons_of_mem el h)) hrest).bind fun vs hvs => ?_
      exact gives_ok (.cons hv hvs)

end Container

/-! ## 2. Properties -/

section Property

variable {c : Config} {m : PropertyMapping} (hi : inline.Fills a m.strategies) (hm : m.Built c)

include hi hm

/-- **The value at the end of a chain.** -/
theorem terminal_gives (h : m.At Γ p [] u) (depth : Nat) :
    Gives (fun v => v.Fills a m.strategies Γ m.destination.ty ↔ ¬ m.LiftsCopies)
      (inline.terminal depth m p) := by
  have hs : ∀ el ∈ m.shape.elements, ∀ t ∈ el.strategy, t ∈ m.strategies :=
    fun _ hel _ ht => PropertyMapping.mem_strategies_of_element hel ht
  have hslots := hm.nullSafe.slots
  unfold terminal
  cases hshape : m.shape with
  | scalar =>
      have hown : ∀ t ∈ m.strategy, t ∈ m.strategies :=
        fun t ht => List.mem_append_left _ (Option.mem_toList.mpr ht)
      refine (convert_gives (d := m.destination.ty) hi hown h.held
        (fun hnull => (h.absent hnull).2) _).bind fun v hv => gives_ok ?_
      exact iff_of_true (fills_lifted_iff.mpr hv)
        (PropertyMapping.not_liftsCopies (by simp [hshape]))
  | collection s target el =>
      obtain ⟨⟨j, hp⟩, hdest⟩ := h.held_collection hm hshape
      rw [hshape] at hs hslots
      refine (collection_gives hi (hslots _ List.mem_cons_self) (hs el List.mem_cons_self) hp
        depth target).bind fun v hv => gives_ok ?_
      rw [PropertyMapping.liftsCopies_iff hshape, ← hv, ← hdest]
      exact fills_lifted_iff
  | map target k v =>
      obtain ⟨⟨j, hp⟩, hdest⟩ := h.held_map hm hshape
      rw [hshape] at hs hslots
      refine (entries_gives hi (hslots _ List.mem_cons_self)
        (hslots _ (List.mem_cons_of_mem _ List.mem_cons_self)) (hs k List.mem_cons_self)
        (hs v (List.mem_cons_of_mem k List.mem_cons_self)) hp depth target).bind fun w hw =>
          gives_ok ?_
      refine iff_of_true (fills_lifted_iff.mpr (hdest ▸ hw)) ?_
      exact PropertyMapping.not_liftsCopies (by simp [hshape])
  | tuple els =>
      obtain ⟨hp, hdest⟩ := h.held_tuple hm hshape
      rw [hshape] at hs hslots
      have hsafe : ∀ el ∈ els, el.NullSafe c m.ignoreNull .tuple :=
        fun el hel => hslots _ (List.mem_map_of_mem hel)
      have htuple := (tupleFrom_gives hi hsafe hs hp (i := 0) rfl depth).map fun _ => fills_tuple
      refine htuple.bind fun w hw => gives_ok ?_
      refine iff_of_true (fills_lifted_iff.mpr (hdest ▸ hw)) ?_
      exact PropertyMapping.not_liftsCopies (by simp [hshape])

/-- **The value along the links that are left**: each link with a policy opens a closure. -/
theorem along_gives {rest : List Hop} (h : m.At Γ p rest u) (depth : Nat) :
    Gives (fun v => v.Fills a m.strategies Γ m.destination.ty ↔ ¬ m.LiftsCopies)
      (inline.along depth m p rest) := by
  induction rest generalizing Γ p u with
  | nil => exact terminal_gives hi hm h depth
  | cons hop rest ih =>
      unfold along
      refine (spelledName_gives hop.name).bind fun name hname => ?_
      cases hpolicy : hop.onNull with
      | none => exact ih (h.field hm.nullSafe hname hpolicy)
      | some policy =>
          refine (gives_true _).bind fun binding _ => ?_
          refine (ih (h.binding binding)).bind fun v hv => gives_ok ?_
          have hheld := h.held_field hname
          have hnull := h.nullable_of_policy hm.nullSafe hpolicy
          have hkeeps := (h.nullSafe hm.nullSafe).propagate_iff _ hpolicy
          split
          · exact (fills_chained_iff hheld hnull (hkeeps.mp rfl)).trans hv
          · rename_i hother
            have hdest : m.destinationNullable = false :=
              Bool.eq_false_iff.mpr fun hdest => hother (hkeeps.mpr hdest)
            exact (fills_orStandard_mapped_iff hheld hnull hdest).trans hv

end Property

end Inliner

/-! ## 3. Literals -/

/-- **A literal of a mapping** has a field for each property that needs no helper, by its name, and
with a value that fills it. -/
def Value.IsLiteral (a : Arena) (k : Mapping) (input : String) (v : Value) : Prop :=
  ∃ type fields isOpen, v = .construct type fields isOpen ∧
    List.Forall₂ (fun m f => Code.name? m.destination.name = some f.1 ∧ m.FilledBy a k input f.2)
      (k.properties.filter fun m => !m.needsHelper) fields

/-- A literal that is written out fills the slot of a present value. -/
theorem Value.IsLiteral.fills {a : Arena} {k : Mapping} {binding : String} {v : Value}
    (h : v.IsLiteral a k binding) {t : MappingId} (hk : a.get? t = some k) {S : List Strategy}
    {Γ : Bindings} {p : Place} {u d : TypeRef} (hp : p.held? Γ = some ⟨u, []⟩)
    (hu : u.nullable = false) (hd : d.nullable = false) (depth : Nat) :
    (inlined t depth binding p v).Fills a S Γ d := by
  obtain ⟨type, fields, isOpen, rfl, hfields⟩ := h
  obtain ⟨hlen, hzip⟩ := List.forall₂_iff_zip.mp hfields
  exact .inlined hp hu hd hk hlen (fun _ hq => (hzip hq).1) fun _ hq => (hzip hq).2

/-- What two relations say of an element of a list. -/
theorem exists_of_forall₂ {α β : Type} {R Q : α → β → Prop} {xs : List α} {ys : List β}
    (hr : List.Forall₂ R xs ys) (hq : List.Forall₂ Q xs ys) {x : α} (hx : x ∈ xs) :
    ∃ y, R x y ∧ Q x y := by
  induction hr with
  | nil => exact absurd hx List.not_mem_nil
  | cons hxy _ ih =>
      cases hq with
      | cons hxy' hq =>
          rcases List.mem_cons.mp hx with rfl | hx
          · exact ⟨_, hxy, hxy'⟩
          · exact ih hq hx

/-- Everything that a mapping reaches is built as it should, and copies no elements that have to be
lifted. -/
def Arena.LiftFree (a : Arena) (c : Config) (id : MappingId) : Prop :=
  ∀ t k, a.Reaches id t → a.get? t = some k → ∀ m ∈ k.properties, m.Built c ∧ ¬ m.LiftsCopies

namespace Emitter

variable {e : Emitter} {c : Config} {id : MappingId} {k : Mapping} {inline : Inliner}

/-- The field of a property in the literal of its mapping; one that is left to the default fills its
slot as well. -/
theorem projectedField_gives {a : Arena} {m : PropertyMapping} (hi : inline.Fills a m.strategies)
    (hm : m.Built c) (hlifts : ¬ m.LiftsCopies) (input : String) (depth : Nat) :
    Gives (fun f => Code.name? m.destination.name = some f.1 ∧ m.FilledBy a k input f.2)
      (projectedField inline k (.binding input false) depth m) := by
  have hat := PropertyMapping.At.source hm.nullSafe.source_ne_nil input k.source
  unfold projectedField
  refine (spelledName_gives _).bind fun name hname => ?_
  split
  · exact gives_ok ⟨hname, .standard⟩
  · exact (Inliner.along_gives hi hm hat depth).bind fun v hv =>
      gives_ok ⟨hname, hv.mpr hlifts⟩

/-- The field of a property that copies such elements does not fill its slot. -/
theorem projectedField_lifts {a : Arena} {m : PropertyMapping} (hm : m.Built c)
    (hlifts : m.LiftsCopies) (input : String) (depth : Nat) :
    Gives (fun f => ¬ m.FilledBy a k input f.2)
      (projectedField inline k (.binding input false) depth m) := by
  have hnone := hlifts.strategies_eq_nil hm
  have hi : inline.Fills a m.strategies := fun d hd => by
    rw [hnone] at hd
    exact absurd hd List.not_mem_nil
  have hcuts : k.cuts depth m = false := by
    rw [Mapping.cuts, PropertyMapping.delegates, hnone]
    rfl
  have hat := PropertyMapping.At.source hm.nullSafe.source_ne_nil input k.source
  unfold projectedField
  refine (gives_true _).bind fun _ _ => ?_
  rw [hcuts]
  exact (Inliner.along_gives hi hm hat depth).bind fun v hv =>
    gives_ok fun hfills => hv.mp hfills hlifts

/-- **A call is written out** as the literal of its target, or left to the default. -/
theorem inlineAt_fills {literal : MappingId → Place → Emit Value} {depth : Nat}
    {S : List Strategy} (hl : ∀ d t target, Strategy.delegate d ∈ S → d.target = some t →
      e.arena.get? t = some target → depth < target.maxRecursionDepth.toNat →
      ∀ binding, Gives (Value.IsLiteral e.arena target binding)
        (literal t (.binding binding false))) :
    (e.inlineAt literal depth).Fills e.arena S := by
  intro d hd Γ p u t hp hu ht
  unfold inlineAt
  refine (gives_ofOption d.target _).bind fun id hid => ?_
  refine (gives_ofOption (e.arena.get? id) _).bind fun target htarget => ?_
  split
  · exact gives_ok .standard
  · rename_i hdepth
    exact (hl d id target hd hid htarget (by omega) _).bind fun v hv =>
      gives_ok (hv.fills htarget hp hu ht _)

/-- **The literal of a mapping** at a depth: what lies deeper than the deepest is never asked for.
-/
theorem literalFrom_gives {fuel depth : Nat} (hfuel : e.arena.deepest < depth + fuel)
    (hpos : 0 < fuel) (hk : e.arena.get? id = some k) (hfree : e.arena.LiftFree c id)
    (input : String) :
    Gives (Value.IsLiteral e.arena k input)
      (e.literalFrom fuel depth id (.binding input false)) := by
  induction fuel generalizing depth id k input with
  | zero => omega
  | succ fuel ih =>
      unfold literalFrom
      refine gives_bind_ofOption hk ?_
      refine (gives_true _).bind fun _ _ => ?_
      refine (gives_mapM fun m hm => ?_).bind fun fields hfields =>
        gives_ok ⟨_, fields, _, rfl, hfields⟩
      have hm := (List.mem_filter.mp hm).1
      obtain ⟨hbuilt, hlifts⟩ := hfree id _ .refl hk m hm
      refine projectedField_gives (inlineAt_fills fun d t target hd ht htarget hdepth binding => ?_)
        hbuilt hlifts input depth
      have hle := Arena.le_deepest htarget
      have hcall : d ∈ k.delegates :=
        List.mem_filterMap.mpr ⟨_, List.mem_flatMap.mpr ⟨m, hm, hd⟩, rfl⟩
      have hstep : e.arena.Delegates id t := ⟨k, hk, Arena.mem_targets_iff.mpr ⟨d, hcall, ht⟩⟩
      exact ih (by omega) (by omega) htarget
        (fun t' k' hreach => hfree t' k' (hreach.head hstep)) binding

/-- A literal of a mapping that copies such elements is none: a field of it does not fill its
property. -/
theorem literalFrom_lifts {fuel depth : Nat} (hk : e.arena.get? id = some k)
    (hbuilt : ∀ m ∈ k.properties, m.Built c) (input : String) :
    Gives (fun v => v.IsLiteral e.arena k input →
        ∀ m ∈ k.properties, m.needsHelper = false → ¬ m.LiftsCopies)
      (e.literalFrom (fuel + 1) depth id (.binding input false)) := by
  unfold literalFrom
  refine gives_bind_ofOption hk ?_
  refine (gives_true _).bind fun _ _ => ?_
  refine (gives_mapM (R := fun m f => m.LiftsCopies → ¬ m.FilledBy e.arena k input f.2)
    fun m hm => ?_).bind fun fields hfields => gives_ok ?_
  · by_cases hlifts : m.LiftsCopies
    · exact (projectedField_lifts (hbuilt m (List.mem_filter.mp hm).1) hlifts input depth).imp
        fun _ hf _ => hf
    · exact fun _ _ h => absurd h hlifts
  · rintro ⟨type, fields', isOpen, hv, hfilled⟩ m hm hhelp hlifts
    obtain ⟨-, rfl, -⟩ := Value.construct.inj hv
    have hmem : m ∈ k.properties.filter fun m => !m.needsHelper :=
      List.mem_filter.mpr ⟨hm, by rw [hhelp]; rfl⟩
    obtain ⟨f, hf, hfill⟩ := exists_of_forall₂ hfields hfilled hmem
    exact hf hlifts hfill.2

/-- **The projection of a mapping** is a literal of it. -/
theorem projection_gives (hk : e.arena.get? e.id = some e.mapping)
    (hfree : e.arena.LiftFree c e.id) :
    Gives (fun r => r.body.IsLiteral e.arena e.mapping r.input) e.projection :=
  projection_parts.imp fun _ hr =>
    literalFrom_gives (by omega) (Nat.succ_pos _) hk hfree _ _ hr.body

theorem projection_lifts (hk : e.arena.get? e.id = some e.mapping)
    (hbuilt : ∀ m ∈ e.mapping.properties, m.Built c) :
    Gives (fun r => r.body.IsLiteral e.arena e.mapping r.input →
        ∀ m ∈ e.mapping.properties, m.needsHelper = false → ¬ m.LiftsCopies) e.projection :=
  projection_parts.imp fun _ hr => literalFrom_lifts hk hbuilt _ _ hr.body

end Emitter

end TypeMapper
