import Mathlib.Data.List.Forall2
import TypeMapper.Proofs.Resolution.Async
import TypeMapper.Proofs.Resolution.Binding
/-!
# Resolution computes the least fixpoint

Resolution binds by scans and then spreads asynchrony. The two do not interfere: the flags decide
nothing about binding. So the calls end as the last scan leaves them, bound exactly to what they
settle on, and a second resolution has nothing left to do.

* `Arena.LeastFixpoint`: what resolution has to come to, field by field.
* `Arena.resolve_leastFixpoint`: it does.
-/

namespace TypeMapper.Arena

variable {a b : Arena} {id t : MappingId} {m : Mapping}

/-! ## 1. Flags and binding -/

section Flags

variable (b) (flag : MappingId → Bool)

theorem find?_withAsync (key : MappingKey) : (b.withAsync flag).find? key = b.find? key :=
  find?_transform _ b key

theorem entries_withAsync :
    (b.withAsync flag).entries = b.entries.map fun p => (p.1, p.2.withAsync (flag p.1)) :=
  entries_transform (f := fun id m => m.withAsync (flag id)) (fun _ _ => rfl)

theorem pending_withAsync : (b.withAsync flag).pending = b.pending := by
  rw [pending_eq_sum, pending_eq_sum, entries_withAsync, List.map_map]
  rfl

theorem isResolved_withAsync (id : MappingId) :
    (b.withAsync flag).isResolved id = b.isResolved id := by
  rw [isResolved, get?_withAsync, Option.map_map]
  rfl

theorem bindable?_withAsync (id : MappingId) (c : DelegateCall) :
    (b.withAsync flag).bindable? id c = b.bindable? id c := by
  simp only [bindable?, find?_withAsync, isResolved_withAsync]

theorem scanCount_withAsync : (b.withAsync flag).scanCount = b.scanCount := by
  rw [scanCount_eq_sum, scanCount_eq_sum, entries_withAsync, List.map_map]
  congr 2
  funext p
  simp only [Function.comp_apply, bindings, bindable?_withAsync]
  rfl

end Flags

/-! ## 2. A resolved arena -/

/-- What resolution makes of an arena: scans change the calls and the spread changes the flags. -/
theorem resolve_eq (h : a.SelfBound) : ∃ g, Scanned a (bindAll (a.pending + 1) a).1 g ∧
    a.resolve.1 = (a.mapCalls g).withAsync a.resolve.1.isAsync := by
  obtain ⟨⟨g, hg⟩, -, -⟩ := scanned_bindAll (scanned_self h) (Nat.lt_succ_self a.pending)
  refine ⟨g, hg, ?_⟩
  rw [← hg.eq]
  exact spreadAsync_eq _

theorem keys_resolve (h : a.SelfBound) : a.resolve.1.keys = a.keys := by
  obtain ⟨g, -, hr⟩ := resolve_eq h
  rw [hr, withAsync, mapCalls, keys_transform, keys_transform]

/-- What resolution makes of a mapping. -/
theorem get?_resolve {g : MappingId → DelegateCall → DelegateCall}
    (hr : a.resolve.1 = (a.mapCalls g).withAsync a.resolve.1.isAsync) (id : MappingId) :
    a.resolve.1.get? id =
      (a.get? id).map fun m => (m.mapDelegates (g id)).withAsync (a.resolve.1.isAsync id) := by
  conv => lhs; rw [hr]
  rw [get?_withAsync, get?_mapCalls, Option.map_map]
  rfl

/-- **The target of a call is the mapping of exactly its key.** -/
theorem target_resolve (h : a.SelfBound) (hm : a.resolve.1.get? id = some m) {c : DelegateCall}
    (hc : c ∈ m.delegates) (ht : c.target = some t) :
    ∃ k, a.resolve.1.get? t = some k ∧ k.key = c.key := by
  obtain ⟨g, hg, hr⟩ := resolve_eq h
  rw [get?_resolve hr, Option.map_eq_some_iff] at hm
  obtain ⟨n, hn, rfl⟩ := hm
  obtain ⟨d, hd, rfl⟩ := List.mem_map.mp (Mapping.delegates_mapDelegates (g id) n ▸ hc)
  obtain ⟨hf, -⟩ := hg.sound id n hn d hd t ht
  rw [← find?_congr (keys_resolve h), find?_eq_some_iff] at hf
  rw [hg.key]
  exact hf

/-- Where nothing can be bound and no flag has to change, resolution is over after one scan. -/
theorem resolve_of_stable (h0 : a.scanCount = 0) (ha : a.mappings.any a.mustFlip = false) :
    a.resolve = (a, ⟨1, 0, a.pending⟩) := by
  simp only [resolve, bindAll_zero_scan h0, spreadAsync_of_stable ha]

/-! ## 3. The least fixpoint -/

/-- What the resolution of the arena `a` has to come to: the arena `r` and a report. -/
structure LeastFixpoint (a r : Arena) (report : FixpointReport) : Prop where
  /-- The pairs of types and their ids are the same. -/
  pairs : r.keys = a.keys
  /-- Call by call: a call keeps its key and ends bound exactly to what it settles on. -/
  calls : ∀ id m, a.get? id = some m → ∃ n, r.get? id = some n ∧
    List.Forall₂ (fun c d => d.key = c.key ∧ ∀ t, d.target = some t ↔ a.Settles id c t)
      m.delegates n.delegates
  /-- The target of a bound call is the mapping of exactly its key. -/
  targets : ∀ id n, r.get? id = some n → ∀ d ∈ n.delegates, ∀ t, d.target = some t →
    ∃ k, r.get? t = some k ∧ k.key = d.key
  /-- There are at most as many scans as pending calls, and one more. -/
  scans : report.scans ≤ a.pending + 1
  /-- A run that is allowed more scans is the same run. -/
  uncut : ∀ n, a.pending < n → bindAll n a = bindAll (a.pending + 1) a
  /-- Every pending call is bound or unresolved. -/
  count : report.bound + report.unresolved = a.pending
  /-- A second run binds nothing and changes nothing. -/
  again : r.resolve = (r, ⟨1, 0, report.unresolved⟩)

/-- **Resolution computes the least fixpoint** of an arena whose only bound calls are calls of a
mapping to itself. -/
theorem resolve_leastFixpoint (h : a.SelfBound) : LeastFixpoint a a.resolve.1 a.resolve.2 := by
  obtain ⟨g, hg, hr⟩ := resolve_eq h
  obtain ⟨-, h0, hsum⟩ := scanned_bindAll (scanned_self h) (Nat.lt_succ_self a.pending)
  refine ⟨keys_resolve h, fun id m hm => ?_, fun id n hn d hd t ht => target_resolve h hn hd ht,
    scans_bindAll_le (a.pending + 1) a, fun n hn => bindAll_of_pending_lt hn (Nat.lt_succ_self _),
    hsum, ?_⟩
  · refine ⟨_, by rw [get?_resolve hr, hm]; rfl, ?_⟩
    show List.Forall₂ _ m.delegates (m.mapDelegates (g id)).delegates
    rw [Mapping.delegates_mapDelegates, List.forall₂_map_right_iff, List.forall₂_same]
    exact fun c hc => ⟨hg.key id c, fun t => hg.target_iff h0 hm hc⟩
  · have hs : a.resolve.1.scanCount = 0 := by
      rw [hr, ← hg.eq, scanCount_withAsync, h0]
    have hp : a.resolve.1.pending = a.resolve.2.unresolved := by
      rw [hr, ← hg.eq, pending_withAsync]
      rfl
    rw [resolve_of_stable hs (any_mustFlip_spreadAsync _), hp]

/-! ## 4. A chain and a ring -/

/-- A mapping with one property for each of some calls. -/
def caller (source destination : String) (calls : List DelegateCall) : Mapping :=
  { Mapping.declare ⟨source, destination⟩ none source with
    properties := calls.map fun c =>
      ⟨[], ⟨c.key.destination, .object c.key.destination false, false⟩, some (.delegate c), .scalar,
        false, none⟩ }

/-- Three mappings in a chain, of which one calls itself, and two in a ring that call each other. -/
def chainAndRing : Arena :=
  ofMappings [caller "A" "X" [⟨⟨"B", "Y"⟩, none⟩],
    caller "B" "Y" [⟨⟨"B", "Y"⟩, some 1⟩, ⟨⟨"C", "Z"⟩, none⟩],
    caller "C" "Z" [],
    caller "D" "W" [⟨⟨"E", "V"⟩, none⟩],
    caller "E" "V" [⟨⟨"D", "W"⟩, none⟩, ⟨⟨"F", "U"⟩, none⟩]]

/-- Two scans bind the chain, the third one ends the run, and the ring stays as it is. -/
theorem resolve_chainAndRing : chainAndRing.SelfBound ∧
    LeastFixpoint chainAndRing chainAndRing.resolve.1 chainAndRing.resolve.2 ∧
    chainAndRing.resolve.2 = ⟨3, 2, 3⟩ :=
  ⟨by decide, resolve_leastFixpoint (by decide), by decide⟩

end TypeMapper.Arena
