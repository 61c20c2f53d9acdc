import TypeMapper.Proofs.Outcome
import TypeMapper.Routine.Projection
/-!
# How a projection is laid out

The values in a literal are made of copies, of what calls are written out as, and of the closures
over links, slots, elements and entries. A value reads from one binding only: a closure reads from
the binding that it opens, and what is outside of all closures from the input.

* `PropertyMapping.uses`: what a property does with its input outside of closures.
* `Inliner.Lays`: the JUDGEMENT that an expression reads from a binding and makes some uses of it;
  what is read off a literal is proved by induction on it.
* `Inliner.along_lays`: the value of a property.
* `Emitter.LiteralOf`: a literal is laid out field by field; `Emitter.literalFrom_literalOf`.
* `Emitter.Keeps`: what goes through literals; `Emitter.Keeps.literalFrom`: it holds of them.
-/

namespace TypeMapper

/-! ## 1. Uses -/

namespace PropertyMapping

/-- The use of what is at a place: a call, or a copy that reads it. -/
def useOf (s : Option Strategy) : Option DelegateCall := s.bind Strategy.delegate?

/-- The use of a slot: one whose value may be absent is read, and a closure is opened. -/
def slotUse (el : ElementMapping) : Option DelegateCall :=
  if el.onNull.isSome then none else useOf el.strategy

/-- What a property does with the end of its chain outside of closures: each call that is written
out there, and none where the value is read. -/
def endUses (p : PropertyMapping) : List (Option DelegateCall) :=
  match p.shape with
  | .scalar => [useOf p.strategy]
  | .collection .. => [none]
  | .map .. => [none]
  | .tuple els => els.map slotUse

/-- **What a property does with its input** outside of closures: a link with a policy reads it and
opens a closure. -/
def uses (p : PropertyMapping) : List (Option DelegateCall) :=
  if p.source.any fun h => h.onNull.isSome then [none] else p.endUses

end PropertyMapping

open PropertyMapping

/-! ## 2. The judgement -/

namespace Inliner

variable {inline : Inliner} {S : List DelegateCall}

/-- **The expression reads from the binding `root` only**, and makes some uses of it outside of
closures; the calls in it are among `S`. -/
inductive Lays (inline : Inliner) (S : List DelegateCall) :
    String → List (Option DelegateCall) → Value → Prop where
  | read (p : Place) (byValue : Bool) : inline.Lays S p.root [none] (.read p byValue)
  | copies (items : Items) (byValue : Bool) (target : CollectionKind) :
      inline.Lays S items.place.root [none] (.copies items byValue target)
  | call {c : DelegateCall} {p : Place} {v : Value} (hc : c ∈ S) (h : inline c p = .ok v) :
      inline.Lays S p.root [some c] v
  | present {root : String} {us : List (Option DelegateCall)} {v : Value}
      (h : inline.Lays S root us v) : inline.Lays S root us (.present v)
  | orStandard {root : String} {us : List (Option DelegateCall)} {v : Value}
      (h : inline.Lays S root us v) : inline.Lays S root us (.orStandard v)
  | required {root : String} {us : List (Option DelegateCall)} {v : Value}
      (h : inline.Lays S root us v) : inline.Lays S root us (.required v)
  | mapped {us : List (Option DelegateCall)} {v : Value} (p : Place) (binding : String)
      (h : inline.Lays S binding us v) : inline.Lays S p.root [none] (.mapped p binding v)
  | chained {us : List (Option DelegateCall)} {v : Value} (p : Place) (binding : String)
      (h : inline.Lays S binding us v) : inline.Lays S p.root [none] (.chained p binding v)
  | each {us : List (Option DelegateCall)} {v : Value} (items : Items) (binding : String)
      (target : CollectionKind) (h : inline.Lays S binding us v) :
      inline.Lays S items.place.root [none] (.each items binding v target .plain)
  | entries {us ws : List (Option DelegateCall)} {k v : Value} (p : Place)
      (keyBinding valueBinding : String) (target : MapKind) (hk : inline.Lays S keyBinding us k)
      (hv : inline.Lays S valueBinding ws v) :
      inline.Lays S p.root [none] (.entries p keyBinding valueBinding k v target .filtered)
  | tupleNil (root : String) : inline.Lays S root [] (.tuple [])
  | tupleCons {root : String} {u : List (Option DelegateCall)} {us : List (Option DelegateCall)}
      {v : Value} {vs : List Value} (hv : inline.Lays S root u v)
      (hvs : inline.Lays S root us (.tuple vs)) : inline.Lays S root (u ++ us) (.tuple (v :: vs))

theorem Lays.lifted {root : String} {us : List (Option DelegateCall)} {v : Value}
    (h : inline.Lays S root us v) (wanted : Bool) : inline.Lays S root us (v.lifted wanted) := by
  cases wanted with
  | false => exact h
  | true => exact .present h

/-! ## 3. Slots -/

theorem convert_lays {s : Option Strategy} (hs : ∀ c, s = some (.delegate c) → c ∈ S) (p : Place)
    (byValue : Bool) : Gives (inline.Lays S p.root [useOf s]) (inline.convert s p byValue) := by
  cases s with
  | none => exact gives_ok (.read p byValue)
  | some t =>
      cases t with
      | delegate c => exact fun v hv => .call (hs c rfl) hv
      | method c => exact gives_error _
      | resolver c => exact gives_error _

section Slot

variable {el : ElementMapping} (hs : ∀ c, el.strategy = some (.delegate c) → c ∈ S)

include hs

theorem slotValue_lays (binding : String) :
    Gives (inline.Lays S binding [useOf el.strategy]) (inline.slotValue el binding) :=
  (convert_lays hs (.binding binding false) _).bind fun _ hv => gives_ok (hv.lifted _)

/-- **A slot** whose value may be absent reads its place and opens a closure. -/
theorem slot_lays (p : Place) (binding : String) :
    Gives (inline.Lays S p.root [slotUse el]) (inline.slot el p binding) := by
  unfold slot slotUse
  cases el.onNull with
  | none => exact (convert_lays hs p _).bind fun _ hv => gives_ok (hv.lifted _)
  | some policy =>
      have hvalue : Gives (inline.Lays S binding [useOf el.strategy]) (inline.slotValue el binding) :=
        slotValue_lays hs binding
      cases policy with
      | propagate => exact hvalue.bind fun _ hv => gives_ok (.chained p binding hv)
      | _ => exact hvalue.bind fun _ hv => gives_ok (.orStandard (.mapped p binding hv))

theorem mapSlot_lays (binding : String) :
    Gives (fun v => ∃ us, inline.Lays S binding us v) (inline.mapSlot el binding) := by
  unfold mapSlot
  dsimp only
  split
  · exact (slotValue_lays hs binding).bind fun _ hv =>
      gives_ok ⟨_, .required (.mapped (.binding binding el.source.nullable) binding hv)⟩
  · exact (slot_lays hs (.binding binding el.source.nullable) binding).imp fun _ hv => ⟨_, hv⟩

theorem collection_lays (depth : Nat) (p : Place) (target : CollectionKind) :
    Gives (inline.Lays S p.root [none]) (inline.collection depth p target el) := by
  unfold collection
  dsimp only
  split
  · exact gives_ok (.copies ⟨p, leavesOut el⟩ el.byValue target)
  · split
    · exact (slotValue_lays hs _).bind fun _ hv => gives_ok (.each ⟨p, _⟩ _ target hv)
    · exact (slot_lays hs (.binding _ el.source.nullable) _).bind fun _ hv =>
        gives_ok (.each ⟨p, _⟩ _ target hv)

end Slot

theorem entries_lays {k v : ElementMapping} (hk : ∀ c, k.strategy = some (.delegate c) → c ∈ S)
    (hv : ∀ c, v.strategy = some (.delegate c) → c ∈ S) (depth : Nat) (p : Place)
    (target : MapKind) : Gives (inline.Lays S p.root [none]) (inline.entries depth p target k v) :=
  (mapSlot_lays hk _).bind fun _ ⟨_, hkey⟩ => (mapSlot_lays hv _).bind fun _ ⟨_, hvalue⟩ =>
    gives_ok (.entries p _ _ target hkey hvalue)

theorem tupleFrom_lays {els : List ElementMapping}
    (hs : ∀ el ∈ els, ∀ c, el.strategy = some (.delegate c) → c ∈ S) (depth : Nat) (p : Place)
    (i : Nat) :
    Gives (fun vs => inline.Lays S p.root (els.map slotUse) (.tuple vs))
      (inline.tupleFrom depth p i els) := by
  induction els generalizing i with
  | nil => exact gives_ok (.tupleNil p.root)
  | cons el rest ih =>
      rw [List.forall_mem_cons] at hs
      unfold tupleFrom
      exact (slot_lays hs.1 (.position p i el.source.nullable) _).bind fun _ hv =>
        (ih hs.2 (i + 1)).bind fun _ hvs => gives_ok (hv.tupleCons hvs)

/-! ## 4. Properties -/

variable {m : PropertyMapping}

theorem mem_delegates_of_slot {el : ElementMapping} (he : el ∈ m.shape.elements) {c : DelegateCall}
    (hc : el.strategy = some (.delegate c)) : c ∈ m.delegates :=
  List.mem_filterMap.mpr ⟨_, mem_strategies_of_element he hc, rfl⟩

theorem terminal_lays (depth : Nat) (p : Place) :
    Gives (inline.Lays m.delegates p.root m.endUses) (inline.terminal depth m p) := by
  have hel : ∀ el ∈ m.shape.elements, ∀ c, el.strategy = some (.delegate c) → c ∈ m.delegates :=
    fun el he c hc => mem_delegates_of_slot he hc
  have hown : ∀ c, m.strategy = some (.delegate c) → c ∈ m.delegates := fun c hc =>
    List.mem_filterMap.mpr ⟨_, List.mem_append_left _ (Option.mem_toList.mpr hc), rfl⟩
  unfold terminal endUses
  cases hshape : m.shape with
  | scalar => exact (convert_lays hown p _).bind fun _ hv => gives_ok (hv.lifted _)
  | collection s target el =>
      rw [hshape] at hel
      exact (collection_lays (hel el List.mem_cons_self) depth p target).bind
        fun _ hv => gives_ok (hv.lifted _)
  | map target k v =>
      rw [hshape] at hel
      exact (entries_lays (hel k List.mem_cons_self)
        (hel v (List.mem_cons_of_mem k List.mem_cons_self)) depth p target).bind
          fun _ hv => gives_ok (hv.lifted _)
  | tuple els =>
      rw [hshape] at hel
      have htuple : Gives (inline.Lays m.delegates p.root (els.map slotUse))
          ((inline.tupleFrom depth p 0 els).map .tuple) :=
        (tupleFrom_lays hel depth p 0).map fun _ hvs => hvs
      exact htuple.bind fun _ hv => gives_ok (hv.lifted _)

/-- The value along links reads from the place at which they start. -/
theorem along_lays (depth : Nat) (base : Place) (hops : List Hop) :
    Gives (inline.Lays m.delegates base.root
        (if hops.any fun h => h.onNull.isSome then [none] else m.endUses))
      (inline.along depth m base hops) := by
  induction hops generalizing base with
  | nil => exact terminal_lays depth base
  | cons hop rest ih =>
      unfold along
      refine (gives_true _).bind fun name _ => ?_
      cases hnull : hop.onNull with
      | none =>
          rw [List.any_cons, hnull, Option.isSome_none, Bool.false_or]
          exact ih (.field base name hop.nullable)
      | some policy =>
          rw [List.any_cons, hnull, Option.isSome_some, Bool.true_or]
          refine (gives_true _).bind fun binding _ =>
            (ih (.binding binding false)).bind fun v hv => gives_ok ?_
          cases policy with
          | propagate => exact .chained (.field base name hop.nullable) binding hv
          | _ => exact .orStandard (.mapped (.field base name hop.nullable) binding hv)

end Inliner

/-! ## 5. Literals -/

namespace Emitter

variable {e : Emitter}

/-- The value of a property in a literal of its mapping: it is left to the default, or it reads from
the input as the property wants. -/
def FieldOf (m : Mapping) (inline : Inliner) (depth : Nat) (root : String) (p : PropertyMapping)
    (v : Value) : Prop :=
  if m.cuts depth p then v = .standard else inline.Lays p.delegates root p.uses v

/-- **The literal of a mapping**, laid out field by field: there is one for each property that needs
no helper. -/
def LiteralOf (m : Mapping) (inline : Inliner) (depth : Nat) (root : String) (v : Value) : Prop :=
  ∃ type fields isOpen, v = .construct type fields isOpen ∧
    List.Forall₂ (fun p f => FieldOf m inline depth root p f.2)
      (m.properties.filter fun p => !p.needsHelper) fields

theorem projectedField_fieldOf (inline : Inliner) (m : Mapping) (input : Place) (depth : Nat)
    (p : PropertyMapping) :
    Gives (fun f => FieldOf m inline depth input.root p f.2)
      (projectedField inline m input depth p) := by
  unfold projectedField FieldOf
  refine (gives_true _).bind fun name _ => ?_
  split
  · exact gives_ok rfl
  · exact (Inliner.along_lays depth input p.source).bind fun v hv => gives_ok hv

/-- **The literal of a mapping at a depth**, with levels below. -/
theorem literalFrom_literalOf (fuel depth : Nat) (id : MappingId) (input : Place) :
    Gives (fun v => ∃ m, e.arena.get? id = some m ∧
        LiteralOf m (e.inlineAt (e.literalFrom fuel (depth + 1)) depth) depth input.root v)
      (e.literalFrom (fuel + 1) depth id input) := by
  unfold literalFrom
  refine (gives_ofOption _ _).bind fun m hm => (gives_true _).bind fun destination _ => ?_
  refine (gives_mapM fun p _ => projectedField_fieldOf _ m input depth p).bind
    fun fields hfields => gives_ok ?_
  exact ⟨m, hm, _, fields, _, rfl, hfields⟩

/-- A property of expressions goes through literals: from fields to what is made of them, from calls
to the values around them, and from literals to the places where they are written out, at depths
that their mappings allow. -/
structure Keeps (e : Emitter) (P : Value → Prop) : Prop where
  standard : P .standard
  construct : ∀ type fields isOpen, (∀ f ∈ fields, P f.2) → P (.construct type fields isOpen)
  lays : ∀ (inline : Inliner) S root us v, inline.Lays S root us v →
    (∀ c p, Gives P (inline c p)) → P v
  inlined : ∀ t k depth binding p v, e.arena.get? t = some k →
    depth ≤ k.maxRecursionDepth.toNat → P v → P (.inlined t depth binding p v)

/-- **What goes through literals holds of them**, by induction on the levels below. -/
theorem Keeps.literalFrom {P : Value → Prop} (h : e.Keeps P) (fuel depth : Nat) (id : MappingId)
    (input : Place) : Gives P (e.literalFrom fuel depth id input) := by
  induction fuel generalizing depth id input with
  | zero => exact gives_ok h.standard
  | succ fuel ih =>
      have hcalls (c : DelegateCall) (p : Place) :
          Gives P (e.inlineAt (e.literalFrom fuel (depth + 1)) depth c p) := by
        unfold inlineAt
        refine (gives_ofOption _ _).bind fun t _ => (gives_ofOption _ _).bind fun k hk => ?_
        split
        · exact gives_ok h.standard
        · rename_i hle
          exact (ih _ _ _).bind fun v hv =>
            gives_ok (h.inlined t k _ _ p v hk (Nat.not_lt.mp hle) hv)
      refine (literalFrom_literalOf fuel depth id input).imp fun v hv => ?_
      obtain ⟨m, -, type, fields, isOpen, rfl, hfields⟩ := hv
      refine h.construct type fields isOpen fun f hf => ?_
      obtain ⟨p, -, hfield⟩ := exists_of_mem_right hfields hf
      unfold FieldOf at hfield
      split at hfield
      · exact hfield ▸ h.standard
      · exact h.lays _ _ _ _ _ hfield hcalls

end Emitter

end TypeMapper
