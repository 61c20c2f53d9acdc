import TypeMapper.Proofs.Batch.Depths
import TypeMapper.Proofs.Generation
import TypeMapper.Proofs.Routine.Reading
/-!
# What the names of inputs say

The input of a literal is bound with an underscore in front if it is taken not to be read. This is
judged by the mapping of the literal alone: each of its properties needs a helper or lies too deep.
A property that is left reads the input, unless all that it does there are calls whose targets allow
no literal one level deeper; the judgement looks at no target. So what is read never has an
underscore, and what has none is read exactly if the judgement overlooks no such calls.

* `inputBase`: the name of an input at a depth; `Emitter.binding_of_holds`: all inputs are named so.
* `Emitter.readsInput_of_readsFrom`: what is read is judged to be.
* `Emitter.Overlooks`: a literal that reads nothing is judged to read its input.
* `Batch.bare_iff_read`: when the name of an input says what is read.
-/

namespace TypeMapper

/-! ## 1. Names -/

/-- The name of an input at a depth, when it is read. -/
def inputBase (depth : Nat) : String := if depth = 0 then "source" else atDepth "nested" depth

/-- The name has an underscore in front. -/
def Underscored (name : String) : Prop := name.toList.head? = some '_'

instance : DecidablePred Underscored := fun name =>
  inferInstanceAs (Decidable (name.toList.head? = some '_'))

theorem not_underscored_inputBase (depth : Nat) : ¬ Underscored (inputBase depth) := by
  unfold inputBase
  split
  · decide
  · simp [Underscored, atDepth]

/-- An input has an underscore in front exactly if it is judged not to be read. -/
theorem underscored_inputName_iff (depth : Nat) (used : Bool) :
    Underscored (inputName (inputBase depth) used) ↔ used = false := by
  cases used with
  | true => exact iff_of_false (not_underscored_inputBase depth) nofun
  | false => exact iff_of_true (by simp [Underscored, inputName]) rfl

namespace Emitter

variable {e : Emitter} {m : Mapping} {depth : Nat}

/-- **Inputs are named** by their depths and by what the mappings of their literals say. -/
theorem binding_of_holds (hown : e.arena.get? e.id = some e.mapping) {r : Projection}
    (hr : e.projection = .ok r) {l : Inlining} (hl : (e.whole r).Holds l) :
    ∃ k, e.arena.get? l.target = some k ∧
      l.binding = inputName (inputBase l.depth) (k.readsInput l.depth) := by
  rcases Relation.ReflTransGen.cases_tail hl with rfl | ⟨l₀, hl₀, hstep⟩
  · exact ⟨e.mapping, hown, (projection_parts r hr).input⟩
  · obtain ⟨⟨_, _, hwithin⟩, -⟩ := ((writes_whole hr).of_holds hl₀).of_mem hstep
    obtain ⟨_, _, k, _, hk, _, hbinding⟩ := hwithin.mapping
    refine ⟨k, hk, ?_⟩
    rw [inputBase, if_neg (by rw [hwithin.depth]; exact Nat.succ_ne_zero _)]
    exact hbinding

/-! ## 2. Judgements -/

/-- **A literal that reads nothing is judged to read its input**: there are properties that are
left, but all they do with the input are calls that are not written out. -/
def Overlooks (e : Emitter) (m : Mapping) (depth : Nat) : Prop :=
  m.readsInput depth = true ∧
    ∀ p ∈ m.properties, p.needsHelper = false → m.cuts depth p = false →
      ∀ u ∈ p.uses, ∃ c, u = some c ∧ e.writesOut depth c = false

theorem readsByUse_eq_false_iff {writes : DelegateCall → Bool} {us : List (Option DelegateCall)} :
    readsByUse writes us = false ↔ ∀ u ∈ us, ∃ c, u = some c ∧ writes c = false := by
  rw [readsByUse, List.any_eq_false]
  refine forall₂_congr fun u _ => ?_
  cases u <;> simp

theorem readsFrom_eq_false_iff : e.readsFrom m depth = false ↔
    ∀ p ∈ m.properties, p.needsHelper = false → m.cuts depth p = false →
      ∀ u ∈ p.uses, ∃ c, u = some c ∧ e.writesOut depth c = false := by
  rw [readsFrom, List.any_eq_false]
  refine forall₂_congr fun p _ => ?_
  rw [← readsByUse_eq_false_iff]
  cases p.needsHelper <;> cases m.cuts depth p <;> simp

theorem overlooks_iff : e.Overlooks m depth ↔
    m.readsInput depth = true ∧ e.readsFrom m depth = false :=
  and_congr_right fun _ => readsFrom_eq_false_iff.symm

/-- **What is read is judged to be.** -/
theorem readsInput_of_readsFrom (h : e.readsFrom m depth = true) : m.readsInput depth = true := by
  obtain ⟨p, hp, hreads⟩ := List.any_eq_true.mp h
  exact List.any_eq_true.mpr ⟨p, hp, (Bool.and_eq_true_iff.mp hreads).1⟩

/-- **The name of an input** and what the literal reads. -/
structure Names (e : Emitter) (k : Mapping) (l : Inlining) : Prop where
  target : e.arena.get? l.target = some k
  binding : l.binding = inputName (inputBase l.depth) (k.readsInput l.depth)
  /-- An input that is read has no underscore in front. -/
  bare_of_read : l.value.reads l.binding = true → ¬ Underscored l.binding
  /-- One that has none is read, unless calls are overlooked. -/
  bare_iff : (¬ Underscored l.binding ↔ l.value.reads l.binding = true) ↔ ¬ e.Overlooks k l.depth
  /-- Nothing else is read, whatever stands around the literal. -/
  alone : ∀ x, x ≠ l.binding → l.value.reads x = false

/-- What is read of a literal and what its mapping says, put together. -/
theorem Names.of_readsOnly {k : Mapping} {l : Inlining} (hk : e.arena.get? l.target = some k)
    (hbinding : l.binding = inputName (inputBase l.depth) (k.readsInput l.depth))
    (hreads : l.value.ReadsOnly l.binding (e.readsFrom k l.depth)) : e.Names k l := by
  have hread : l.value.reads l.binding = e.readsFrom k l.depth := by
    rw [hreads, beq_self_eq_true, Bool.and_true]
  have hbare : ¬ Underscored l.binding ↔ k.readsInput l.depth = true := by
    rw [hbinding, underscored_inputName_iff, Bool.not_eq_false]
  refine ⟨hk, hbinding, fun h => ?_, ?_, fun x hx => ?_⟩
  · exact hbare.mpr (readsInput_of_readsFrom (hread ▸ h))
  · rw [hbare, hread, overlooks_iff]
    cases hjudged : k.readsInput l.depth with
    | true => simp
    | false =>
        have hnone : e.readsFrom k l.depth = false :=
          Bool.eq_false_iff.mpr fun h => Bool.eq_false_iff.mp hjudged (readsInput_of_readsFrom h)
        simp [hnone]
  · rw [hreads, beq_eq_false_iff_ne.mpr hx.symm, Bool.and_false]

end Emitter

/-! ## 3. Batches -/

namespace Batch

/-- **When the name of an input says what is read**: exactly if no calls are overlooked that are not
written out. -/
theorem bare_iff_read {b : Batch} {c : Config} {p : MappingId × Mapping} (hp : p ∈ b.arena.entries)
    {r : Projection} (hr : (b.emitter c p).projection = .ok r) {l : Inlining}
    (hl : ((b.emitter c p).whole r).Holds l) : ∃ k, (b.emitter c p).Names k l := by
  obtain ⟨k, hk, hbinding⟩ := Emitter.binding_of_holds (Arena.mem_entries_iff.mp hp) hr hl
  obtain ⟨m, hm, hreads⟩ := ((Emitter.writes_whole hr).of_holds hl).readsOnly
  obtain rfl := Option.some.inj (hk.symm.trans hm)
  exact ⟨k, .of_readsOnly hk hbinding hreads⟩

/-- A drawer with a folder with a label, which is written out down to a depth. -/
def drawerSchema (depth : UInt32) : Schema :=
  Schema.ofLists
    [type "app::Drawer" (part "folder" "app::Folder") (some "view::Drawer") [],
      type "app::Folder" (part "label" "app::Label") (some "view::Folder") [],
      type "app::Label" text (some "view::Label") [⟨.maxRecursionDepth depth, none⟩],
      type "view::Drawer" (part "folder" "view::Folder") none [],
      type "view::Folder" (part "label" "view::Label") none [],
      type "view::Label" text none []] []
where
  /-- A property that holds another type. -/
  part (name path : String) : Property := ⟨name, .object path false, false, ⟨true, true⟩, []⟩
  /-- A property that holds a string. -/
  text : Property := ⟨"text", .scalar "String" false false, false, ⟨true, true⟩, []⟩
  /-- A type with one property that may be mapped to another one. -/
  type (path : String) (part : Property) (view : Option String)
      (directives : List DirectiveEntry) : TypeDecl :=
    ⟨path, none, false, true, [part], view.toList.map (fun d => ⟨.mapTo d, none⟩) ++ directives, []⟩

/-- The inputs of the literals in the projections of a batch, by their depths, and whether they are
read. -/
def inputs (b : Batch) (c : Config) : List (Nat × String × Bool) :=
  b.arena.entries.flatMap fun p =>
    (((b.emitter c p).projection.toOption.map fun r => r.body.written).getD []).map fun l =>
      (l.depth, l.binding, l.value.reads l.binding)

/-- An input in the list is that of a literal in a projection. -/
theorem exists_of_mem_inputs {b : Batch} {c : Config} {i : Nat × String × Bool}
    (h : i ∈ b.inputs c) : ∃ p r l, p ∈ b.arena.entries ∧ (b.emitter c p).projection = .ok r ∧
      ((b.emitter c p).whole r).Holds l ∧ i = (l.depth, l.binding, l.value.reads l.binding) := by
  obtain ⟨p, hp, hi⟩ := List.mem_flatMap.mp h
  obtain ⟨l, hl, rfl⟩ := List.mem_map.mp hi
  cases hr : (b.emitter c p).projection with
  | error e =>
      rw [hr] at hl
      exact absurd hl List.not_mem_nil
  | ok r =>
      rw [hr] at hl
      exact ⟨p, r, l, hp, hr, .single hl, rfl⟩

/-- The label is written out in the folder in the drawer, and so the folder is read. -/
theorem bare_iff_read_of_drawer : ∃ p r l k,
    p ∈ (discover (drawerSchema 2) projecting).arena.entries ∧
    ((discover (drawerSchema 2) projecting).emitter projecting p).projection = .ok r ∧
    (((discover (drawerSchema 2) projecting).emitter projecting p).whole r).Holds l ∧
    l.binding = "nested_1" ∧ l.value.reads "nested_1" = true ∧
    ((discover (drawerSchema 2) projecting).emitter projecting p).Names k l ∧
    ¬ ((discover (drawerSchema 2) projecting).emitter projecting p).Overlooks k l.depth := by
  have hmem : (1, "nested_1", true) ∈ (discover (drawerSchema 2) projecting).inputs projecting := by
    decide +kernel
  obtain ⟨p, r, l, hp, hr, hl, hi⟩ := exists_of_mem_inputs hmem
  simp only [Prod.mk.injEq] at hi
  obtain ⟨-, hbinding, hreads⟩ := hi
  obtain ⟨k, hk⟩ := bare_iff_read hp hr hl
  refine ⟨p, r, l, k, hp, hr, hl, hbinding.symm, hbinding ▸ hreads.symm, hk, hk.bare_iff.mp ?_⟩
  exact iff_of_true (hk.bare_of_read hreads.symm) hreads.symm

/-- The label does not allow a literal in the folder in the drawer. So nothing is read of the folder,
and still its name has no underscore in front. -/
theorem bare_not_read_of_drawer : ∃ p r l,
    p ∈ (discover (drawerSchema 1) projecting).arena.entries ∧
    ((discover (drawerSchema 1) projecting).emitter projecting p).projection = .ok r ∧
    (((discover (drawerSchema 1) projecting).emitter projecting p).whole r).Holds l ∧
    l.binding = "nested_1" ∧ ¬ Underscored l.binding ∧ l.value.reads l.binding = false ∧
    ¬ (¬ Underscored l.binding ↔ l.value.reads l.binding = true) := by
  have hmem : (1, "nested_1", false) ∈ (discover (drawerSchema 1) projecting).inputs projecting := by
    decide +kernel
  obtain ⟨p, r, l, hp, hr, hl, hi⟩ := exists_of_mem_inputs hmem
  simp only [Prod.mk.injEq] at hi
  obtain ⟨-, hbinding, hreads⟩ := hi
  have hbare : ¬ Underscored l.binding := by
    rw [← hbinding]
    decide
  refine ⟨p, r, l, hp, hr, hl, hbinding.symm, hbare, hreads.symm, fun h => ?_⟩
  rw [h.mp hbare] at hreads
  cases hreads

end Batch

end TypeMapper
