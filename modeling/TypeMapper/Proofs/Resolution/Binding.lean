import Mathlib.Algebra.BigOperators.Group.List.Basic
import Mathlib.Algebra.GroupWithZero.Nat
import TypeMapper.Proofs.Arena.Lookup
import TypeMapper.Resolution
/-!
# Binding as a least fixpoint

A scan binds what its start state allows. Scans until nothing changes bind exactly the calls that go
to their own mapping or to a resolvable one, where the resolvable mappings are the least set that
contains a mapping once all its calls go to itself or into the set.

* `Arena.Resolvable`, `Arena.Settles`: the least set, and the target that a call has to get.
* `Arena.Scanned`: the INVARIANT of any number of scans: the arena is the old one with its calls
  changed, no key changed, and a bound call has the target it settles on.
* `Arena.scanned_scan`: a scan keeps it; `Arena.Scanned.target_iff`: once a scan binds nothing, a
  call is bound to a target exactly if it settles on it.
* `Arena.scanned_bindAll`, `Arena.bindAll_of_pending_lt`: a whole run, and that its bound does not
  cut it short.
-/

namespace TypeMapper

/-! ## 1. Changing calls -/

theorem Strategy.mapDelegate_mapDelegate (f g : DelegateCall → DelegateCall) (s : Strategy) :
    (s.mapDelegate f).mapDelegate g = s.mapDelegate (g ∘ f) := by cases s <;> rfl

theorem Strategy.mapDelegate_id : Strategy.mapDelegate id = id := by
  funext s
  cases s <;> rfl

theorem Shape.mapElements_mapElements (f g : ElementMapping → ElementMapping) (s : Shape) :
    (s.mapElements f).mapElements g = s.mapElements (g ∘ f) := by cases s <;> simp [mapElements]

theorem Shape.mapElements_id (s : Shape) : s.mapElements id = s := by cases s <;> simp [mapElements]

theorem PropertyMapping.mapDelegates_mapDelegates (f g : DelegateCall → DelegateCall)
    (p : PropertyMapping) : (p.mapDelegates f).mapDelegates g = p.mapDelegates (g ∘ f) := by
  simp only [mapDelegates, mapStrategies, Shape.mapElements_mapElements, Option.map_map,
    Function.comp_def, Strategy.mapDelegate_mapDelegate]

theorem PropertyMapping.mapDelegates_id (p : PropertyMapping) : p.mapDelegates id = p := by
  have h : (fun e : ElementMapping => { e with strategy := e.strategy.map id }) = id := by
    funext e
    simp
  simp only [mapDelegates, mapStrategies, Strategy.mapDelegate_id, h, Shape.mapElements_id]
  simp

namespace Mapping

theorem mapDelegates_mapDelegates (f g : DelegateCall → DelegateCall) (m : Mapping) :
    (m.mapDelegates f).mapDelegates g = m.mapDelegates (g ∘ f) := by
  simp only [mapDelegates, List.map_map]
  congr 2
  funext p
  exact p.mapDelegates_mapDelegates f g

theorem strategies_mapDelegates (f : DelegateCall → DelegateCall) (m : Mapping) :
    (m.mapDelegates f).strategies = m.strategies.map (Strategy.mapDelegate f) := by
  simp only [strategies, mapDelegates, List.flatMap_map, List.map_flatMap,
    PropertyMapping.mapDelegates, PropertyMapping.strategies_mapStrategies]

theorem mapDelegates_id (m : Mapping) : m.mapDelegates id = m := by
  have h : PropertyMapping.mapDelegates id = id := funext PropertyMapping.mapDelegates_id
  simp only [mapDelegates, h, List.map_id]

/-- The calls of a mapping that have no target. -/
def unbound (m : Mapping) : Nat := m.delegates.countP fun c => !c.isBound

theorem isResolved_iff {m : Mapping} : m.isResolved = true ↔ ∀ c ∈ m.delegates, c.isBound = true :=
  List.all_eq_true

end Mapping

/-- Change every call of every mapping. -/
def Arena.mapCalls (g : MappingId → DelegateCall → DelegateCall) (a : Arena) : Arena :=
  a.transform fun id m => m.mapDelegates (g id)

theorem Arena.get?_mapCalls (g : MappingId → DelegateCall → DelegateCall) (a : Arena)
    (id : MappingId) : (a.mapCalls g).get? id = (a.get? id).map (Mapping.mapDelegates (g id)) :=
  get?_transform_of_key (f := fun id m => m.mapDelegates (g id)) (fun _ _ => rfl) a id

theorem Arena.mapCalls_mapCalls (f g : MappingId → DelegateCall → DelegateCall) (a : Arena) :
    (a.mapCalls f).mapCalls g = a.mapCalls fun id => g id ∘ f id :=
  ext_get? fun i => by
    simp only [get?_mapCalls, Option.map_map, Function.comp_def, Mapping.mapDelegates_mapDelegates]

theorem Arena.mapCalls_id (a : Arena) : a.mapCalls (fun _ c => c) = a :=
  transform_eq_self fun _ m _ => m.mapDelegates_id

theorem DelegateCall.isBound_iff {c : DelegateCall} :
    c.isBound = true ↔ ∃ t, c.target = some t := Option.isSome_iff_exists

namespace Arena

variable {a b : Arena} {id t : MappingId} {m : Mapping}

/-! ## 2. What has to be bound -/

/-- The bound calls are calls of a mapping to itself. -/
def SelfBound (a : Arena) : Prop :=
  ∀ p ∈ a.entries, ∀ c ∈ p.2.delegates, c.isBound = true → c = ⟨p.2.key, some p.1⟩

instance (a : Arena) : Decidable a.SelfBound :=
  inferInstanceAs (Decidable (∀ p ∈ a.entries, ∀ c ∈ p.2.delegates,
    c.isBound = true → c = ⟨p.2.key, some p.1⟩))

/-- The least set of mappings all of whose calls go to themselves or into the set. -/
inductive Resolvable (a : Arena) : MappingId → Prop where
  | intro {id : MappingId} {m : Mapping} (hm : a.get? id = some m)
      (known : ∀ c ∈ m.delegates, ∃ t, a.find? c.key = some t)
      (below : ∀ c ∈ m.delegates, ∀ t, a.find? c.key = some t → t ≠ id → Resolvable a t) :
      Resolvable a id

/-- The call of the mapping `own` has to be bound to `t`. -/
def Settles (a : Arena) (own : MappingId) (c : DelegateCall) (t : MappingId) : Prop :=
  a.find? c.key = some t ∧ (t = own ∨ a.Resolvable t)

theorem isResolved_iff :
    a.isResolved id = true ↔ ∃ m, a.get? id = some m ∧ m.isResolved = true := by
  unfold isResolved
  cases a.get? id <;> simp

/-! ## 3. One scan -/

theorem bindable?_eq_some_iff {c : DelegateCall} :
    a.bindable? id c = some t ↔
      c.isBound = false ∧ a.find? c.key = some t ∧ (t = id ∨ a.isResolved t = true) := by
  unfold bindable?
  cases hc : c.isBound with
  | true => simp
  | false =>
      cases hf : a.find? c.key with
      | none => simp
      | some u =>
          by_cases hu : u = id ∨ a.isResolved u = true
          · simp only [Bool.false_eq_true, if_false, if_pos hu, Option.some.injEq, eq_self,
              true_and]
            exact ⟨fun e => ⟨e, e ▸ hu⟩, And.left⟩
          · simp only [Bool.false_eq_true, if_false, if_neg hu, Option.some.injEq, eq_self,
              true_and]
            exact ⟨nofun, fun ⟨e, h⟩ => absurd (e ▸ h) hu⟩

theorem bindCall_key (a : Arena) (id : MappingId) (c : DelegateCall) :
    (a.bindCall id c).key = c.key := by
  unfold bindCall
  split <;> rfl

/-- The target of a call after a scan: the old one, or the one that the scan found. -/
theorem bindCall_target {c : DelegateCall} (h : (a.bindCall id c).target = some t) :
    c.target = some t ∨ a.bindable? id c = some t := by
  unfold bindCall at h
  split at h
  · rename_i u hu
    exact Or.inr (hu.trans h)
  · exact Or.inl h

/-- A scan binds some calls and leaves the others as they are. -/
theorem countP_bindCall (a : Arena) (id : MappingId) (cs : List DelegateCall) :
    (cs.map (a.bindCall id)).countP (fun c => !c.isBound)
      + cs.countP (fun c => (a.bindable? id c).isSome) = cs.countP fun c => !c.isBound := by
  rw [List.countP_map]
  refine countP_split fun c _ => ?_
  rw [Function.comp_apply, bindCall]
  cases hb : a.bindable? id c with
  | none => simp
  | some t =>
      rw [(bindable?_eq_some_iff.mp hb).1]
      exact ⟨rfl, rfl⟩

theorem pending_eq_sum (a : Arena) : a.pending = (a.entries.map fun p => p.2.unbound).sum := by
  rw [pending, List.countP_flatMap, ← map_snd_entries, List.map_map]
  rfl

theorem scanCount_eq_sum (a : Arena) :
    a.scanCount = (a.entries.map fun p => a.bindings p.1 p.2).sum := by
  simp only [scanCount, List.sum, List.foldr_map]

/-- **What a scan binds is no longer pending, and nothing else changes.** -/
theorem pending_scan (a : Arena) : a.scan.pending + a.scanCount = a.pending := by
  have hkey : ∀ id m, (Mapping.mapDelegates (a.bindCall id) m).key = m.key := fun _ _ => rfl
  rw [pending_eq_sum, pending_eq_sum, scanCount_eq_sum, scan, entries_transform hkey, List.map_map,
    ← List.sum_map_add]
  congr 2
  funext p
  show (p.2.mapDelegates (a.bindCall p.1)).unbound + a.bindings p.1 p.2 = p.2.unbound
  rw [Mapping.unbound, Mapping.delegates_mapDelegates]
  exact countP_bindCall a p.1 p.2.delegates

/-- A scan binds nothing exactly if it can bind no call. -/
theorem scanCount_eq_zero_iff : a.scanCount = 0 ↔
    ∀ id m, a.get? id = some m → ∀ c ∈ m.delegates, a.bindable? id c = none := by
  rw [scanCount_eq_sum, List.sum_eq_zero_iff_forall_eq_nat, List.forall_mem_map]
  constructor
  · intro h id m hm c hc
    have h0 : m.delegates.countP (fun c => (a.bindable? id c).isSome) = 0 :=
      h (id, m) (mem_entries_iff.mpr hm)
    simpa using List.countP_eq_zero.mp h0 c hc
  · intro h p hp
    refine List.countP_eq_zero.mpr fun c hc => ?_
    simp [h p.1 p.2 (mem_entries_iff.mp hp) c hc]

/-! ## 4. Many scans -/

/-- **The invariant of scanning**: the arena is the old one with its calls changed, a call keeps its
key, and a bound one has the target that it settles on. -/
structure Scanned (a b : Arena) (g : MappingId → DelegateCall → DelegateCall) : Prop where
  eq : b = a.mapCalls g
  key : ∀ id c, (g id c).key = c.key
  sound : ∀ id m, a.get? id = some m → ∀ c ∈ m.delegates, ∀ t, (g id c).target = some t →
    a.Settles id c t

section Scanned

variable {g : MappingId → DelegateCall → DelegateCall}

theorem Scanned.get? (h : Scanned a b g) (id : MappingId) :
    b.get? id = (a.get? id).map (Mapping.mapDelegates (g id)) := by
  rw [h.eq, get?_mapCalls]

theorem Scanned.find? (h : Scanned a b g) (key : MappingKey) : b.find? key = a.find? key := by
  rw [h.eq, mapCalls, find?_transform]

/-- The start of scanning: a call of a mapping to itself is bound to what it settles on. -/
theorem scanned_self (h : a.SelfBound) : Scanned a a fun _ c => c where
  eq := a.mapCalls_id.symm
  key _ _ := rfl
  sound i m hm c hc t ht := by
    have e := h (i, m) (mem_entries_iff.mpr hm) c hc (DelegateCall.isBound_iff.mpr ⟨t, ht⟩)
    have ht' : c.target = some t := ht
    rw [e] at ht' ⊢
    obtain rfl : i = t := Option.some.inj ht'
    exact ⟨find?_eq_some_iff.mpr ⟨m, hm, rfl⟩, Or.inl rfl⟩

/-- A mapping that scanning resolves is resolvable. -/
theorem Scanned.resolvable (h : Scanned a b g) (hr : b.isResolved id = true) : a.Resolvable id := by
  obtain ⟨n, hn, hall⟩ := isResolved_iff.mp hr
  rw [h.get?, Option.map_eq_some_iff] at hn
  obtain ⟨m, hm, rfl⟩ := hn
  have hs : ∀ c ∈ m.delegates, ∃ t, a.Settles id c t := fun c hc => by
    have hb : (g id c).isBound = true := by
      refine Mapping.isResolved_iff.mp hall _ ?_
      rw [Mapping.delegates_mapDelegates]
      exact List.mem_map_of_mem hc
    obtain ⟨t, ht⟩ := DelegateCall.isBound_iff.mp hb
    exact ⟨t, h.sound id m hm c hc t ht⟩
  refine .intro hm (fun c hc => (hs c hc).imp fun t ht => ht.1) fun c hc t ht hne => ?_
  obtain ⟨u, hu, hor⟩ := hs c hc
  obtain rfl : u = t := Option.some.inj (hu.symm.trans ht)
  exact hor.resolve_left hne

/-- **A scan keeps the invariant.** -/
theorem scanned_scan (h : Scanned a b g) :
    Scanned a b.scan fun id => b.bindCall id ∘ g id where
  eq := by
    show b.mapCalls b.bindCall = _
    rw [← mapCalls_mapCalls, ← h.eq]
  key id c := (bindCall_key b id (g id c)).trans (h.key id c)
  sound id m hm c hc t ht := by
    rcases bindCall_target ht with hold | hnew
    · exact h.sound id m hm c hc t hold
    · obtain ⟨-, hf, hor⟩ := bindable?_eq_some_iff.mp hnew
      rw [h.find?, h.key] at hf
      exact ⟨hf, hor.imp_right h.resolvable⟩

/-- Where a scan binds nothing, every call that the scan could bind has its target. -/
theorem Scanned.isBound (h : Scanned a b g) (h0 : b.scanCount = 0) (hm : a.get? id = some m)
    {c : DelegateCall} (hc : c ∈ m.delegates) (hf : a.find? c.key = some t)
    (ht : t = id ∨ b.isResolved t = true) : (g id c).isBound = true := by
  have hn : b.get? id = some (m.mapDelegates (g id)) := by rw [h.get?, hm]; rfl
  have hd : g id c ∈ (m.mapDelegates (g id)).delegates := by
    rw [Mapping.delegates_mapDelegates]
    exact List.mem_map_of_mem hc
  refine Bool.of_not_eq_false fun hb => ?_
  have hsome : b.bindable? id (g id c) = some t :=
    bindable?_eq_some_iff.mpr ⟨hb, by rw [h.find?, h.key, hf], ht⟩
  rw [scanCount_eq_zero_iff.mp h0 id _ hn _ hd] at hsome
  cases hsome

/-- **Where a scan binds nothing, every resolvable mapping is resolved.** -/
theorem Scanned.isResolved (h : Scanned a b g) (h0 : b.scanCount = 0) (hr : a.Resolvable id) :
    b.isResolved id = true := by
  induction hr with
  | @intro id m hm known _ ih =>
      have hn : b.get? id = some (m.mapDelegates (g id)) := by rw [h.get?, hm]; rfl
      refine isResolved_iff.mpr ⟨_, hn, Mapping.isResolved_iff.mpr fun d hd => ?_⟩
      obtain ⟨c, hc, rfl⟩ := List.mem_map.mp (Mapping.delegates_mapDelegates (g id) m ▸ hd)
      obtain ⟨t, ht⟩ := known c hc
      refine h.isBound h0 hm hc ht ?_
      by_cases e : t = id
      · exact Or.inl e
      · exact Or.inr (ih c hc t ht e)

/-- **Where a scan binds nothing, a call is bound to a target exactly if it settles on it.** -/
theorem Scanned.target_iff (h : Scanned a b g) (h0 : b.scanCount = 0) (hm : a.get? id = some m)
    {c : DelegateCall} (hc : c ∈ m.delegates) :
    (g id c).target = some t ↔ a.Settles id c t := by
  refine ⟨h.sound id m hm c hc t, fun hs => ?_⟩
  obtain ⟨u, hu⟩ := DelegateCall.isBound_iff.mp
    (h.isBound h0 hm hc hs.1 (hs.2.imp_right (h.isResolved h0)))
  rw [hu, ← (h.sound id m hm c hc u hu).1, hs.1]

/-! ## 5. Whole runs -/

theorem bindAll_zero_scan {n : Nat} (h0 : b.scanCount = 0) :
    bindAll (n + 1) b = (b, 1, 0) := if_pos h0

theorem bindAll_next_scan {n : Nat} (h0 : b.scanCount ≠ 0) :
    bindAll (n + 1) b = ((bindAll n b.scan).1, (bindAll n b.scan).2.1 + 1,
      (bindAll n b.scan).2.2 + b.scanCount) := if_neg h0

/-- A run makes at most as many scans as it is allowed. -/
theorem scans_bindAll_le (n : Nat) (b : Arena) : (bindAll n b).2.1 ≤ n := by
  induction n generalizing b with
  | zero => exact Nat.le_refl 0
  | succ n ih =>
      by_cases h0 : b.scanCount = 0
      · rw [bindAll_zero_scan h0]
        exact Nat.succ_le_succ (Nat.zero_le n)
      · rw [bindAll_next_scan h0]
        exact Nat.succ_le_succ (ih b.scan)

/-- **A run that is allowed more scans than there are pending calls ends with a scan that binds
nothing**, keeps the invariant, and has bound what is no longer pending. -/
theorem scanned_bindAll {n : Nat} (h : Scanned a b g) (hn : b.pending < n) :
    (∃ g', Scanned a (bindAll n b).1 g') ∧ (bindAll n b).1.scanCount = 0 ∧
      (bindAll n b).2.2 + (bindAll n b).1.pending = b.pending := by
  induction n generalizing b g with
  | zero => omega
  | succ n ih =>
      by_cases h0 : b.scanCount = 0
      · rw [bindAll_zero_scan h0]
        exact ⟨⟨g, h⟩, h0, Nat.zero_add _⟩
      · have hp := pending_scan b
        obtain ⟨hg, hz, hsum⟩ := ih (scanned_scan h) (by omega)
        rw [bindAll_next_scan h0]
        exact ⟨hg, hz, by dsimp only; omega⟩

/-- **The bound never cuts a run short**: a run that is allowed more scans is the same run. -/
theorem bindAll_of_pending_lt {n k : Nat} (hn : b.pending < n) (hk : b.pending < k) :
    bindAll n b = bindAll k b := by
  induction n generalizing b k with
  | zero => omega
  | succ n ih =>
      obtain ⟨k, rfl⟩ : ∃ j, k = j + 1 := ⟨k - 1, by omega⟩
      by_cases h0 : b.scanCount = 0
      · rw [bindAll_zero_scan h0, bindAll_zero_scan h0]
      · have hp := pending_scan b
        rw [bindAll_next_scan h0, bindAll_next_scan h0, ih (by omega) (k := k) (by omega)]

end Scanned

end Arena

end TypeMapper
