import Mathlib.Data.Finset.Card
import Mathlib.Data.List.Cycle
import Mathlib.Logic.Relation
import Mathlib.Order.WellFounded
import TypeMapper.Schema.Validation
/-!
# Cycles of bases

Whether chains of bases come to an end is found out type by type: each chain is followed until it
ends or comes back to a type that it has left behind. The types are finite, so one of the two
happens before the fuel is spent, and the cycles reported are those that exist.

* `Schema.Extends`: one path has a declared type whose base is another.
* `Schema.IsCycle`: a ring of paths, each of which extends the next.
* `Schema.isCycle_of_cycleFrom`: a chain that comes back runs into a cycle, which is what is found.
* `Schema.acc_of_cycleFrom`: a chain that does not come back ends.
* `Schema.cycleMessages_eq_nil_iff`: nothing is reported if and only if there is no cycle.
-/

namespace TypeMapper.Schema

variable {s : Schema}

/-! ## 1. Declared types -/

/-- The path is that of a type of the schema. -/
def Declares (s : Schema) (path : String) : Prop := ∃ t ∈ s.types.toList, t.path = path

/-- A type of the schema at the first path has the second one as its base. -/
def Extends (s : Schema) (path base : String) : Prop :=
  ∃ t ∈ s.types.toList, t.path = path ∧ t.base = some base

theorem type?_eq_some_iff {path : String} {t : TypeDecl} :
    s.type? path = some t ↔ t ∈ s.types.toList ∧ t.path = path := by
  constructor
  · exact Catalog.mem_and_key_of_find?
  · rintro ⟨ht, rfl⟩
    exact Catalog.mem_iff_find?.mp ht

theorem hasType_iff {path : String} : s.hasType path = true ↔ s.Declares path := by
  simp only [hasType, Option.isSome_iff_exists, type?_eq_some_iff, Declares]

theorem base?_eq_some_iff {t u : TypeDecl} :
    s.base? t = some u ↔ t.base = some u.path ∧ u ∈ s.types.toList := by
  simp only [base?, Option.bind_eq_some_iff, type?_eq_some_iff]
  constructor
  · rintro ⟨b, hb, hu, rfl⟩
    exact ⟨hb, hu⟩
  · rintro ⟨hb, hu⟩
    exact ⟨u.path, hb, hu, rfl⟩

/-- Types of the schema at one path are the same. -/
theorem eq_of_path_eq {t u : TypeDecl} (ht : t ∈ s.types.toList) (hu : u ∈ s.types.toList)
    (h : t.path = u.path) : t = u :=
  Option.some.inj ((type?_eq_some_iff.mpr ⟨ht, h⟩).symm.trans (type?_eq_some_iff.mpr ⟨hu, rfl⟩))

/-- The declared type at a path is the only one. -/
theorem base_of_extends {t : TypeDecl} (ht : t ∈ s.types.toList) {b : String}
    (h : s.Extends t.path b) : t.base = some b := by
  obtain ⟨u, hu, hp, hb⟩ := h
  exact eq_of_path_eq hu ht hp ▸ hb

/-! ## 2. A chain that comes back -/

/-- A cycle of bases: a ring of different paths, each of which extends the next. -/
structure IsCycle (s : Schema) (c : Cycle String) : Prop where
  nonempty : c ≠ Cycle.nil
  distinct : c.Nodup
  links : c.Chain s.Extends

/-- The members of a cycle lead to each other. -/
theorem IsCycle.transGen_of_mem {c : Cycle String} {p q : String} (hc : s.IsCycle c) (hp : p ∈ c)
    (hq : q ∈ c) : Relation.TransGen s.Extends p q :=
  Cycle.chain_iff_pairwise.mp (hc.links.imp fun _ _ => .single) p hp q hq

/-- From the first occurrence of a member on. -/
theorem exists_dropWhile_ne {p : String} {xs : List String} (h : p ∈ xs) :
    ∃ before l, xs = before ++ p :: l ∧ xs.dropWhile (· != p) = p :: l := by
  obtain ⟨before, l, rfl, hnot⟩ := List.eq_append_cons_of_mem h
  have hbefore : ∀ q ∈ before, (q != p) = true := fun q hq =>
    bne_iff_ne.mpr (ne_of_mem_of_not_mem hq hnot)
  refine ⟨before, l, rfl, ?_⟩
  rw [List.dropWhile_append_of_pos hbefore]
  exact List.dropWhile_cons_of_neg (by simp)

/-- A walk along links to different paths finds a cycle, from the path on at which it is entered,
and gets there. -/
theorem isCycle_of_cycleFrom {fuel : Nat} {visited : List String} {t : TypeDecl}
    {found : List String × String} (ht : t ∈ s.types.toList) (hn : visited.Nodup)
    (hlinks : (visited.reverse ++ [t.path]).IsChain s.Extends)
    (h : s.cycleFrom fuel visited (some t) = some found) :
    s.IsCycle found.1 ∧ found.1.head? = some found.2 ∧
      Relation.ReflTransGen s.Extends t.path found.2 := by
  induction fuel generalizing visited t with
  | zero => cases h
  | succ fuel ih =>
      rw [cycleFrom] at h
      split at h
      · rename_i hc
        obtain rfl := Option.some.inj h
        obtain ⟨before, l, hsplit, hdrop⟩ :=
          exists_dropWhile_ne (List.mem_reverse.mpr (List.contains_iff_mem.mp hc))
        dsimp only
        rw [hdrop]
        rw [hsplit, List.append_assoc] at hlinks
        have hdistinct := hsplit ▸ List.nodup_reverse.mpr hn
        exact ⟨⟨mt (Cycle.coe_eq_nil _).mp (List.cons_ne_nil _ _),
          Cycle.nodup_coe_iff.mpr hdistinct.of_append_right, hlinks.right_of_append⟩, rfl, .refl⟩
      · rename_i hc
        cases hu : s.base? t with
        | none => rw [hu] at h; cases fuel <;> cases h
        | some u =>
            obtain ⟨hb, hm⟩ := base?_eq_some_iff.mp hu
            have hstep : s.Extends t.path u.path := ⟨t, ht, rfl, hb⟩
            have hnew : (t.path :: visited).Nodup :=
              List.nodup_cons.mpr ⟨mt List.contains_iff_mem.mpr hc, hn⟩
            have hlonger : ((t.path :: visited).reverse ++ [u.path]).IsChain s.Extends := by
              rw [List.reverse_cons]
              refine hlinks.append (List.isChain_singleton _) fun x hx y hy => ?_
              rw [List.getLast?_concat] at hx
              obtain rfl := Option.some.inj hx
              obtain rfl := Option.some.inj hy
              exact hstep
            obtain ⟨hcycle, hhead, hreach⟩ := ih hm hnew hlonger (hu ▸ h)
            exact ⟨hcycle, hhead, hreach.head hstep⟩

/-- **What the walk from a type finds is a cycle** that it gets to. -/
theorem isCycle_of_cycleOf {t : TypeDecl} {found : List String × String} (ht : t ∈ s.types.toList)
    (h : s.cycleOf t = some found) : s.IsCycle found.1 ∧ found.1.head? = some found.2 ∧
      Relation.ReflTransGen s.Extends t.path found.2 :=
  isCycle_of_cycleFrom ht List.nodup_nil (List.isChain_singleton _) h

/-! ## 3. A chain that ends -/

/-- Distinct paths of declared types are no more than these types. -/
theorem length_le_of_declares {paths : List String} (hn : paths.Nodup)
    (hd : ∀ p ∈ paths, s.Declares p) : paths.length ≤ s.types.toList.length := by
  have hsub : paths ⊆ s.types.toList.map TypeDecl.path := fun p hp => by
    obtain ⟨t, ht, rfl⟩ := hd p hp
    exact List.mem_map_of_mem ht
  simpa using (List.subperm_of_subset hn hsub).length_le

/-- A path without declared type extends nothing. -/
theorem acc_of_not_declares {p : String} (h : ¬ s.Declares p) :
    Acc (fun b a => s.Extends a b) p :=
  .intro p fun _ ⟨t, ht, hp, _⟩ => absurd ⟨t, ht, hp⟩ h

/-- **A chain that does not come back ends**, if there was fuel for more types than there are. -/
theorem acc_of_cycleFrom {fuel : Nat} {visited : List String} {t : TypeDecl}
    (ht : t ∈ s.types.toList) (hn : visited.Nodup) (hd : ∀ p ∈ visited, s.Declares p)
    (hf : s.types.toList.length < fuel + visited.length)
    (h : s.cycleFrom fuel visited (some t) = none) : Acc (fun b a => s.Extends a b) t.path := by
  induction fuel generalizing visited t with
  | zero => exact absurd (length_le_of_declares hn hd) (by omega)
  | succ fuel ih =>
      rw [cycleFrom] at h
      split at h
      · cases h
      · rename_i hc
        have hnew : t.path ∉ visited := fun hm => hc (List.contains_iff_mem.mpr hm)
        refine .intro _ fun b hb => ?_
        have hbase := base_of_extends ht hb
        by_cases hk : s.Declares b
        · obtain ⟨u, hu, rfl⟩ := hk
          rw [base?_eq_some_iff.mpr ⟨hbase, hu⟩] at h
          refine ih hu (List.nodup_cons.mpr ⟨hnew, hn⟩) (fun p hp => ?_) ?_ h
          · rcases List.mem_cons.mp hp with rfl | hp
            · exact ⟨t, ht, rfl⟩
            · exact hd p hp
          · rw [List.length_cons]; omega
        · exact acc_of_not_declares hk

/-! ## 4. Reports -/

/-- Without cycles no chain runs into one. -/
theorem cycleOf_eq_none_of_acyclic (h : ∀ p, ¬ Relation.TransGen s.Extends p p) {t : TypeDecl}
    (ht : t ∈ s.types.toList) : s.cycleOf t = none := by
  refine Option.eq_none_iff_forall_ne_some.mpr fun found hf => ?_
  obtain ⟨hcycle, hhead, -⟩ := isCycle_of_cycleOf ht hf
  have hmem : found.2 ∈ (found.1 : Cycle String) :=
    Cycle.mem_coe_iff.mpr (List.mem_of_mem_head? hhead)
  exact h found.2 (hcycle.transGen_of_mem hmem hmem)

theorem wellFounded_extends (h : ∀ t ∈ s.types.toList, s.cycleOf t = none) :
    WellFounded fun b a => s.Extends a b := by
  refine ⟨fun p => ?_⟩
  by_cases hd : s.Declares p
  · obtain ⟨t, ht, rfl⟩ := hd
    exact acc_of_cycleFrom ht List.nodup_nil (fun _ hm => absurd hm List.not_mem_nil)
      (by simp) (h t ht)
  · exact acc_of_not_declares hd

theorem cycleOf_eq_none_iff :
    (∀ t ∈ s.types.toList, s.cycleOf t = none) ↔ ∀ p, ¬ Relation.TransGen s.Extends p p := by
  constructor
  · intro h p hp
    exact (wellFounded_extends h).transGen.irrefl.irrefl p (Relation.transGen_swap.mpr hp)
  · exact fun h _ ht => cycleOf_eq_none_of_acyclic h ht

theorem cycleMessagesFrom_eq_nil_iff (ts : List TypeDecl) :
    s.cycleMessagesFrom [] ts = [] ↔ ∀ t ∈ ts, s.cycleOf t = none := by
  induction ts with
  | nil => simp [cycleMessagesFrom]
  | cons t ts ih =>
      rw [cycleMessagesFrom, List.forall_mem_cons]
      cases ht : s.cycleOf t with
      | none => simpa using ih
      | some found => simp

/-- **No cycle is reported if and only if no chain of bases comes back** to where it was. -/
theorem cycleMessages_eq_nil_iff :
    s.cycleMessages = [] ↔ ∀ p, ¬ Relation.TransGen s.Extends p p :=
  (cycleMessagesFrom_eq_nil_iff s.types.toList).trans cycleOf_eq_none_iff

end TypeMapper.Schema
