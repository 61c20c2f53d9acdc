import TypeMapper.Proofs.Resolution.Async
import TypeMapper.Proofs.Routine.Frames
import TypeMapper.Proofs.Routine.Layout
import TypeMapper.Proofs.Routine.ProjectionLayout
/-!
# Where a routine leaves its closures

A failed call, an absent value that is refused and an entry that is dropped leave what is right
around them, and an await suspends it. This takes a function, closure or block of a fitting result.
How slots are gathered is decided by flags, apart from what is written in the slots.

* `Gathering.elementFrame`, `entryFrame`: the closures in which slots are converted.
* `Value.needs`: what an expression needs, each with the frame there.
* `Value.Placed`: every frame grants what is needed in it.
* `Emitter.slot_placed`, `collection_placed`, `entries_placed`, `property_placed`: function by
  function.
* `Emitter.primary_placed`: the routine of a mapping; `projection_needsNothing`: its projection.
-/

namespace TypeMapper

/-! ## 1. How slots are gathered -/

namespace Gathering

/-- The frame of an element. -/
def elementFrame : Gathering → Frame
  | .fallible => .result false
  | .joined => .block false
  | _ => .plain false

/-- The frame of the key and the value of an entry. -/
def entryFrame : Gathering → Frame
  | .plain => .plain false
  | .filtered => .plain true
  | .fallible => .result true
  | .joined => .block true

/-- What is needed to take the slots together: those that can fail leave what is around the
container, and those that are joined are awaited there. -/
def needs : Gathering → List Need
  | .fallible => [.failure]
  | .joined => [.await, .failure]
  | _ => []

end Gathering

/-! ## 2. What expressions need -/

namespace Value

/-- The needs of a call that may fail and may be awaited. -/
def callNeeds (f : Frame) (fails isAsync : Bool) : List (Frame × Need) :=
  (if isAsync then [(f, .await)] else []) ++ if fails then [(f, .failure)] else []

mutual

/-- **What an expression needs**, each with the frame there; `f` is that of the whole expression. -/
def needs (f : Frame) : Value → List (Frame × Need)
  | fail _ => [(f, .refusal)]
  | dropEntry => [(f, .noEntry)]
  | method _ _ _ _ isAsync _ => callNeeds f false isAsync
  | resolve _ _ _ _ isAsync _ => callNeeds f false isAsync
  | delegate _ _ _ _ _ isAsync => callNeeds f true isAsync
  | present v => needs f v
  | orStandard v => needs f v
  | required v => needs f v
  | cases _ _ v otherwise => needs f v ++ needs f otherwise
  | mapped _ _ v => needs (.plain false) v
  | chained _ _ v => needs (.plain false) v
  | each _ _ v _ g => needs g.elementFrame v ++ g.needs.map (Prod.mk f)
  | entries _ _ _ k v _ g =>
    needs g.entryFrame k ++ needs g.entryFrame v ++ g.needs.map (Prod.mk f)
  | tuple vs => needsOf f vs
  | inlined _ _ _ _ v => needs f v
  | construct _ fields _ => fieldNeeds f fields
  | _ => []

/-- What expressions need. -/
def needsOf (f : Frame) : List Value → List (Frame × Need)
  | [] => []
  | v :: rest => needs f v ++ needsOf f rest

/-- What fields need. -/
def fieldNeeds (f : Frame) : List (String × Value) → List (Frame × Need)
  | [] => []
  | (_, v) :: rest => needs f v ++ fieldNeeds f rest

end

/-- **Every frame grants what is needed in it.** -/
def Placed (f : Frame) (v : Value) : Prop := ∀ n ∈ v.needs f, n.1.grants n.2 = true

variable {f : Frame} {v u : Value}

theorem placed_of_nil (h : v.needs f = []) : v.Placed f := fun _ hn =>
  absurd (h ▸ hn) List.not_mem_nil

theorem placed_of_callNeeds {fails isAsync : Bool} (h : v.needs f = callNeeds f fails isAsync)
    (hawait : isAsync = true → f.grants .await = true)
    (hfails : fails = true → f.grants .failure = true) : v.Placed f := by
  intro n hn
  rw [h, callNeeds, List.mem_append] at hn
  rcases hn with hn | hn
  · split at hn
    · exact List.mem_singleton.mp hn ▸ hawait ‹_›
    · cases hn
  · split at hn
    · exact List.mem_singleton.mp hn ▸ hfails ‹_›
    · cases hn

theorem placed_of_append {t : Value} (hv : v.Placed f) {g : Frame} (hu : u.Placed g)
    (h : t.needs f = v.needs f ++ u.needs g) : t.Placed f := fun n hn =>
  (List.mem_append.mp (h ▸ hn)).elim (hv n) (hu n)

/-- Making an expression fit a slot needs nothing more. -/
theorem Placed.fitted (h : v.Placed f) (wanted : Bool) : (v.fitted wanted).Placed f := by
  unfold Value.fitted
  split <;> exact h

theorem Placed.cases (hv : v.Placed f) (hu : u.Placed f) (p : Place) (binding : String) :
    (Value.cases p binding v u).Placed f := placed_of_append hv hu rfl

/-- Taking slots together is granted where its needs are. -/
theorem Placed.each {g : Gathering} (hv : v.Placed g.elementFrame)
    (hg : ∀ n ∈ g.needs, f.grants n = true) (items : Items) (binding : String)
    (target : CollectionKind) : (Value.each items binding v target g).Placed f := by
  intro n hn
  rcases List.mem_append.mp hn with hn | hn
  · exact hv n hn
  · obtain ⟨m, hm, rfl⟩ := List.mem_map.mp hn
    exact hg m hm

theorem Placed.entries {g : Gathering} (hu : u.Placed g.entryFrame) (hv : v.Placed g.entryFrame)
    (hg : ∀ n ∈ g.needs, f.grants n = true) (p : Place) (keyBinding valueBinding : String)
    (target : MapKind) : (Value.entries p keyBinding valueBinding u v target g).Placed f := by
  intro n hn
  rcases List.mem_append.mp hn with hn | hn
  · exact (List.mem_append.mp hn).elim (hu n) (hv n)
  · obtain ⟨m, hm, rfl⟩ := List.mem_map.mp hn
    exact hg m hm

theorem placed_tuple {vs : List Value} (h : ∀ v ∈ vs, v.Placed f) : (Value.tuple vs).Placed f := by
  induction vs with
  | nil => exact placed_of_nil rfl
  | cons v vs ih =>
      rw [List.forall_mem_cons] at h
      exact placed_of_append h.1 (ih h.2) rfl

theorem placed_construct {fields : List (String × Value)} (h : ∀ x ∈ fields, x.2.Placed f)
    (type : PathSpelling) (isOpen : Bool) : (Value.construct type fields isOpen).Placed f := by
  induction fields with
  | nil => exact placed_of_nil rfl
  | cons x fields ih =>
      rw [List.forall_mem_cons] at h
      exact placed_of_append h.1 (ih h.2) rfl

end Value

open Value

namespace Emitter

variable {e : Emitter} {f : Frame}

/-! ## 3. Slots -/

/-- The conversion calls the routine of a mapping, which can fail. -/
def callsRoutine (s : Option Strategy) : Bool := (s.bind Strategy.delegate?).isSome

/-- **A conversion** needs to wait if it is judged so, and to fail if it calls a routine. -/
theorem convert_placed {s : Option Strategy} (p : Place) (byValue : Bool)
    (hawait : e.isAwaited s = true → f.grants .await = true)
    (hfails : callsRoutine s = true → f.grants .failure = true) :
    Gives (Placed f) (e.convert s p byValue) := by
  cases s with
  | none => exact gives_ok (placed_of_nil rfl)
  | some s =>
      cases s with
      | method c =>
          refine (gives_true _).bind fun owner _ => (gives_true _).bind fun name _ => ?_
          exact (gives_true _).bind fun arguments _ =>
            gives_ok (placed_of_callNeeds rfl hawait nofun)
      | resolver c =>
          refine (gives_true _).bind fun resolver _ => (gives_true _).bind fun input _ => ?_
          exact (gives_true _).bind fun output _ =>
            gives_ok (placed_of_callNeeds rfl hawait nofun)
      | delegate c =>
          refine (gives_ofOption c.target _).bind fun t ht => ?_
          refine (gives_ofOption _ _).bind fun k hk => (gives_true _).bind fun routine _ => ?_
          refine (gives_true _).bind fun arguments _ => gives_ok (placed_of_callNeeds rfl ?_ hfails)
          rw [isAwaited, ht, Option.map_some, Option.getD_some, Arena.isAsync_of_get? hk] at hawait
          exact hawait

/-- **A slot** needs what its flags say, and what a dropped value needs if it drops one. -/
theorem slot_placed {el : ElementMapping} {dropped : Value} (p : Place) (binding label : String)
    (hawait : e.isAwaited el.strategy = true → f.grants .await = true)
    (hfallible : isFallible el = true → f.grants .failure = true ∧ f.grants .refusal = true)
    (hdrop : el.onNull = some .drop → dropped.Placed f) :
    Gives (Placed f) (e.slot el p binding dropped label) := by
  have hcalls : callsRoutine el.strategy = true → f.grants .failure = true := fun h =>
    (hfallible (Bool.or_eq_true_iff.mpr (.inl h))).1
  unfold slot
  cases hnull : el.onNull with
  | none => exact (convert_placed p _ hawait hcalls).bind fun v hv => gives_ok (hv.fitted _)
  | some policy =>
      have hother : (e.absentValue policy dropped label).Placed f := by
        cases policy with
        | propagate => exact placed_of_nil rfl
        | guard =>
            have hguard : isFallible el = true := by simp [isFallible, hnull]
            exact fun n hn => List.mem_singleton.mp hn ▸ (hfallible hguard).2
        | fallback => exact placed_of_nil rfl
        | drop => exact hdrop hnull
      exact (convert_placed _ _ hawait hcalls).bind fun v hv =>
        gives_ok ((hv.fitted _).cases hother p binding)

/-! ## 4. Containers -/

end Emitter

namespace Gathering

/-- How slots are gathered that are awaited or can fail. -/
def ofFlags (awaited fails : Bool) : Gathering :=
  if awaited then .joined else if fails then .fallible else .plain

variable {f : Frame} {awaited fails : Bool}

/-- **The frame of an element** grants what the flags ask for. -/
theorem grants_elementFrame :
    (awaited = true → (ofFlags awaited fails).elementFrame.grants .await = true) ∧
      (fails = true → (ofFlags awaited fails).elementFrame.grants .failure = true ∧
        (ofFlags awaited fails).elementFrame.grants .refusal = true) := by
  cases awaited <;> cases fails <;> decide

/-- **The frame of an entry** grants what the flags ask for, and that the entry is dropped. -/
theorem grants_entryFrame :
    (awaited = true → (ofFlags awaited fails).entryFrame.grants .await = true) ∧
      (fails = true → (ofFlags awaited fails).entryFrame.grants .failure = true ∧
        (ofFlags awaited fails).entryFrame.grants .refusal = true ∧
        (ofFlags awaited fails).entryFrame.grants .noEntry = true) := by
  cases awaited <;> cases fails <;> decide

/-- What is needed to take the slots together can fail, and is awaited only if a slot is. -/
theorem grants_of_mem_needs (hf : f.grants .failure = true)
    (hawait : awaited = true → f.grants .await = true) :
    ∀ n ∈ (ofFlags awaited fails).needs, f.grants n = true := by
  cases awaited <;> cases fails <;> simp_all [ofFlags, needs]

end Gathering

open Gathering

namespace Emitter

variable {e : Emitter} {f : Frame}

/-- **The elements of a collection** in a frame that can be left with an error, and that waits if
they are awaited. -/
theorem collection_placed (p : Place) (target : CollectionKind) (el : ElementMapping)
    (label : String) (hf : f.grants .failure = true)
    (hawait : e.isAwaited el.strategy = true → f.grants .await = true) :
    Gives (Placed f) (e.collection p target el label) := by
  have hgathered (el : ElementMapping) (items : Items)
      (hawait : e.isAwaited el.strategy = true → f.grants .await = true) :
      Gives (Placed f)
        ((if el.strategy.isNone && el.onNull.isNone then .ok (.copies items el.byValue target)
        else do
          let v ← e.slot el (.binding "element" el.source.nullable) "element" .standard label
          let gathering : Gathering :=
            if e.isAwaited el.strategy then .joined else if isFallible el then .fallible else .plain
          return .each items "element" v target gathering) : Emit Value) := by
    split
    · exact gives_ok (placed_of_nil rfl)
    · refine (slot_placed _ _ label grants_elementFrame.1 grants_elementFrame.2
        fun _ => placed_of_nil rfl).bind fun v hv => gives_ok ?_
      exact hv.each (grants_of_mem_needs hf hawait) items _ target
  unfold collection
  cases el.onNull == some .drop with
  | true => exact hgathered { el with source := el.source.nonNull, onNull := none } _ hawait
  | false => exact hgathered el _ hawait

/-- **The entries of a map**; one with a dropped slot leaves its closure without an entry. -/
theorem entries_placed (p : Place) (target : MapKind) (k v : ElementMapping) (label : String)
    (hf : f.grants .failure = true)
    (hawait : (e.isAwaited k.strategy || e.isAwaited v.strategy) = true → f.grants .await = true) :
    Gives (Placed f) (e.entries p target k v label) := by
  -- the flags of an entry are those of its key and of its value together
  have hslot (el : ElementMapping) (binding : String) (hel : el = k ∨ el = v) :
      Gives (Placed (ofFlags (e.isAwaited k.strategy || e.isAwaited v.strategy)
          ((k.onNull == some .drop || v.onNull == some .drop) || isFallible k
            || isFallible v)).entryFrame)
        (e.slot el (.binding binding el.source.nullable) binding .dropEntry label) := by
    have hawaited (ha : e.isAwaited el.strategy = true) :
        (e.isAwaited k.strategy || e.isAwaited v.strategy) = true := by
      rcases hel with rfl | rfl <;> simp [ha]
    have hfails (hi : isFallible el = true ∨ el.onNull = some .drop) :
        ((k.onNull == some .drop || v.onNull == some .drop) || isFallible k
          || isFallible v) = true := by
      rcases hi with hi | hi <;> rcases hel with rfl | rfl <;> simp [hi]
    refine slot_placed _ _ label (fun ha => grants_entryFrame.1 (hawaited ha)) (fun hi => ?_)
      fun hd => ?_
    · obtain ⟨hfailure, hrefusal, -⟩ := grants_entryFrame.2 (hfails (.inl hi))
      exact ⟨hfailure, hrefusal⟩
    · obtain ⟨-, -, hnoEntry⟩ := grants_entryFrame.2 (hfails (.inr hd))
      exact fun n hn => List.mem_singleton.mp hn ▸ hnoEntry
  unfold entries
  refine (hslot k "key" (.inl rfl)).bind fun key hkey => ?_
  refine (hslot v "value" (.inr rfl)).bind fun value hvalue => gives_ok ?_
  exact hkey.entries hvalue (grants_of_mem_needs hf hawait) p _ _ target

/-- **The elements of a tuple** stand in the frame of the tuple. -/
theorem tupleFrom_placed (p : Place) (label : String) (i : Nat) {els : List ElementMapping}
    (hf : f.grants .failure = true ∧ f.grants .refusal = true)
    (hawait : ∀ el ∈ els, e.isAwaited el.strategy = true → f.grants .await = true) :
    Gives (fun vs => ∀ v ∈ vs, v.Placed f) (e.tupleFrom p label i els) := by
  induction els generalizing i with
  | nil => exact gives_ok (List.forall_mem_nil _)
  | cons el rest ih =>
      rw [List.forall_mem_cons] at hawait
      unfold tupleFrom
      refine (slot_placed _ _ label hawait.1 (fun _ => hf) fun _ => placed_of_nil rfl).bind
        fun v hv => (ih (i + 1) hawait.2).bind fun vs hvs => gives_ok ?_
      exact List.forall_mem_cons.mpr ⟨hv, hvs⟩

/-! ## 5. Properties -/

/-- A frame that can be left with an error, and that waits if a conversion of the property does. -/
structure Suits (e : Emitter) (f : Frame) (m : PropertyMapping) : Prop where
  failure : f.grants .failure = true
  refusal : f.grants .refusal = true
  await : ∀ t ∈ m.strategies, e.isAwaited (some t) = true → f.grants .await = true

variable {m : PropertyMapping}

/-- The conversions of a property are its own and those of its slots. -/
theorem Suits.await_of_own (h : e.Suits f m) (hs : e.isAwaited m.strategy = true) :
    f.grants .await = true := by
  cases hstrategy : m.strategy with
  | none => rw [hstrategy] at hs; cases hs
  | some t =>
      refine h.await t ?_ (hstrategy ▸ hs)
      rw [PropertyMapping.strategies, hstrategy]
      exact List.mem_cons_self

theorem Suits.await_of_slot (h : e.Suits f m) {el : ElementMapping} (hel : el ∈ m.shape.elements)
    (hs : e.isAwaited el.strategy = true) : f.grants .await = true := by
  cases hstrategy : el.strategy with
  | none => rw [hstrategy] at hs; cases hs
  | some t =>
      refine h.await t ?_ (hstrategy ▸ hs)
      exact PropertyMapping.mem_strategies_of_element hel hstrategy

theorem terminal_placed (h : e.Suits f m) (p : Place) :
    Gives (Placed f) (e.terminal m p) := by
  have hslots {el : ElementMapping} : el ∈ m.shape.elements → e.isAwaited el.strategy = true →
      f.grants .await = true := h.await_of_slot
  unfold terminal
  cases hshape : m.shape with
  | scalar =>
      exact (convert_placed p _ h.await_of_own fun _ => h.failure).bind fun v hv =>
        gives_ok (hv.fitted _)
  | collection s target el =>
      rw [hshape] at hslots
      exact (collection_placed p target el _ h.failure (hslots List.mem_cons_self)).bind
        fun v hv => gives_ok (hv.fitted _)
  | map target k v =>
      rw [hshape] at hslots
      refine (entries_placed p target k v _ h.failure fun hs => ?_).bind fun w hw =>
        gives_ok (hw.fitted _)
      exact (Bool.or_eq_true_iff.mp hs).elim (hslots List.mem_cons_self)
        (hslots (List.mem_cons_of_mem _ List.mem_cons_self))
  | tuple els =>
      rw [hshape] at hslots
      have htuple : Gives (Placed f) (e.tuple p els m.sourcePath) :=
        (tupleFrom_placed p _ 0 ⟨h.failure, h.refusal⟩ fun el hel => hslots hel).map
          fun vs hvs => placed_tuple hvs
      exact htuple.bind fun v hv => gives_ok (hv.fitted _)

theorem along_placed (h : e.Suits f m) (base : Place) (i : Nat) (hops : List Hop) :
    Gives (Placed f) (e.along m base i hops) := by
  induction hops generalizing base i with
  | nil => exact terminal_placed h base
  | cons hop rest ih =>
      unfold along
      refine (gives_true _).bind fun name _ => ?_
      split
      · exact ih _ _
      · rename_i policy _
        refine (gives_true _).bind fun binding _ => (ih _ _).bind fun v hv => gives_ok ?_
        refine hv.cases ?_ _ _
        cases policy with
        | guard => exact fun n hn => List.mem_singleton.mp hn ▸ h.refusal
        | _ => exact placed_of_nil rfl

theorem property_placed (h : e.Suits f m) : Gives (Placed f) (e.property m) := by
  unfold property
  split
  · exact (gives_true _).bind fun name _ => gives_ok (placed_of_nil rfl)
  · exact along_placed h _ _ _

/-! ## 6. Routines -/

/-- **The routine of a mapping** that is asynchronous if one of its strategies is awaited. -/
theorem primary_placed
    (hjudged : ∀ t ∈ e.mapping.strategies, e.isAwaited (some t) = true → e.mapping.isAsync = true) :
    Gives (fun r => r.literal.Placed (.routine r.isAsync)) e.primary := by
  refine primary_parts.imp fun r hr => ?_
  have hfields : Gives (List.Forall₂ (fun _ x => x.2.Placed (.routine r.isAsync))
      e.mapping.properties) (e.mapping.properties.mapM e.field) :=
    gives_mapM fun m hm => (gives_true _).bind fun name _ => (property_placed ⟨rfl, rfl,
      fun t ht hs => hr.isAsync ▸ hjudged t (List.mem_flatMap.mpr ⟨m, hm, ht⟩) hs⟩).bind
        fun v hv => gives_ok hv
  refine placed_construct (fun x hx => ?_) _ _
  obtain ⟨-, -, hplaced⟩ := exists_of_mem_right (hfields _ hr.fields) hx
  exact hplaced

/-- The expression needs nothing of what is around it. -/
def NeedsNothing (v : Value) : Prop := ∀ f, v.needs f = []

/-- **A projection needs nothing**: it calls no routine, refuses nothing and waits for nothing. -/
theorem keeps_needsNothing : e.Keeps NeedsNothing where
  standard _ := rfl
  construct type fields isOpen h f := by
    show fieldNeeds f fields = []
    induction fields with
    | nil => rfl
    | cons x fields ih =>
        rw [List.forall_mem_cons] at h
        exact List.append_eq_nil_iff.mpr ⟨h.1 f, ih h.2⟩
  lays inline S root us v h hi := by
    induction h with
    | read | copies | tupleNil => exact fun _ => rfl
    | call _ hv => exact hi _ _ _ hv
    | present _ ih | orStandard _ ih | required _ ih => exact ih
    | mapped _ _ _ ih | chained _ _ _ ih => exact fun _ => ih _
    | each _ _ _ _ ih => exact fun _ => List.append_eq_nil_iff.mpr ⟨ih _, rfl⟩
    | entries _ _ _ _ _ _ ihk ihv =>
        exact fun _ => List.append_eq_nil_iff.mpr ⟨List.append_eq_nil_iff.mpr ⟨ihk _, ihv _⟩, rfl⟩
    | tupleCons _ _ ihv ihvs => exact fun f => List.append_eq_nil_iff.mpr ⟨ihv f, ihvs f⟩
  inlined _ _ _ _ _ _ _ _ hv := hv

theorem projection_needsNothing : Gives (fun r => NeedsNothing r.body) e.projection :=
  projection_parts.imp fun _ hr => keeps_needsNothing.literalFrom _ _ _ _ _ hr.body

end Emitter

end TypeMapper
