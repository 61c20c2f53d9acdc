import TypeMapper.Proofs.Schema.Cycles
/-!
# Reports on cycles of bases

A type has one base, so two cycles that share a path are the same, and whatever a cycle leads to is
in it. A walk may start ahead of a cycle and enter it anywhere: what it finds is the cycle from
there on, and the least path tells the cycles apart.

* `IsCycle.eq_of_mem`: cycles that share a path are the same.
* `Schema.exists_cycleOf`: the walk from a type on a cycle finds that cycle.
* `Schema.Reported`: the INVARIANT of the reports: each cycle that a walk has found is reported,
  and once only.
* `Schema.cycleMessages_eq`: there is one message for each cycle.
-/

namespace TypeMapper

/-- Messages that are added one after the other stand behind those of the place. -/
theorem ErrorTree.foldl_add (messages : List String) (errs : ErrorTree) :
    messages.foldl ErrorTree.add errs = .node (errs.messages ++ messages) errs.children := by
  induction messages generalizing errs with
  | nil => cases errs; exact congrArg (ErrorTree.node · _) (List.append_nil _).symm
  | cons m rest ih =>
      rw [List.foldl_cons, ih]
      exact congrArg (ErrorTree.node · _) (List.append_assoc ..)

namespace Schema

variable {s : Schema}

/-! ## 1. Cycles -/

/-- A path extends one path at most. -/
theorem rightUnique_extends (s : Schema) : Relator.RightUnique s.Extends := by
  rintro _ b c ⟨t, ht, rfl, hb⟩ hc
  exact Option.some.inj (hb.symm.trans (base_of_extends ht hc))

/-- A ring can be read from any of its members. -/
theorem exists_eq_coe_cons {c : Cycle String} {p : String} (h : p ∈ c) :
    ∃ l : List String, c = ((p :: l : List String) : Cycle String) := by
  induction c using Quotient.inductionOn' with
  | h xs =>
      obtain ⟨before, after, rfl⟩ := List.append_of_mem (Cycle.mem_coe_iff.mp h)
      exact ⟨after ++ before, Cycle.coe_eq_coe.mpr List.isRotated_append⟩

/-- What comes back to a path for the first time is determined by the path. -/
theorem eq_of_isChain_of_rightUnique {r : String → String → Prop} (hr : Relator.RightUnique r)
    {p a : String} {l m : List String} (hl : (a :: (l ++ [p])).IsChain r)
    (hm : (a :: (m ++ [p])).IsChain r) (hpl : p ∉ l) (hpm : p ∉ m) : l = m := by
  induction l generalizing a m with
  | nil =>
      cases m with
      | nil => rfl
      | cons b m =>
          have hb : p = b := hr hl.rel hm.rel
          exact absurd List.mem_cons_self (hb ▸ hpm)
  | cons b l ih =>
      cases m with
      | nil =>
          have hb : b = p := hr hl.rel hm.rel
          exact absurd List.mem_cons_self (hb ▸ hpl)
      | cons c m =>
          obtain rfl : b = c := hr hl.rel hm.rel
          rw [ih hl.tail hm.tail (mt (List.mem_cons_of_mem b) hpl)
            (mt (List.mem_cons_of_mem b) hpm)]

namespace IsCycle

variable {c d : Cycle String} {p q : String}

/-- **Cycles that share a path are the same.** -/
theorem eq_of_mem (hc : s.IsCycle c) (hd : s.IsCycle d) (hpc : p ∈ c) (hpd : p ∈ d) : c = d := by
  obtain ⟨l, rfl⟩ := exists_eq_coe_cons hpc
  obtain ⟨m, rfl⟩ := exists_eq_coe_cons hpd
  have hpl : p ∉ l := (List.nodup_cons.mp (Cycle.nodup_coe_iff.mp hc.distinct)).1
  have hpm : p ∉ m := (List.nodup_cons.mp (Cycle.nodup_coe_iff.mp hd.distinct)).1
  rw [eq_of_isChain_of_rightUnique (rightUnique_extends s)
    ((Cycle.chain_coe_cons ..).mp hc.links) ((Cycle.chain_coe_cons ..).mp hd.links) hpl hpm]

/-- A cycle is never left. -/
theorem mem_of_extends (hc : s.IsCycle c) (hp : p ∈ c) (h : s.Extends p q) : q ∈ c := by
  obtain ⟨l, rfl⟩ := exists_eq_coe_cons hp
  have hlinks := (Cycle.chain_coe_cons ..).mp hc.links
  cases l with
  | nil => exact rightUnique_extends s hlinks.rel h ▸ hp
  | cons b l =>
      rw [← rightUnique_extends s hlinks.rel h]
      exact Cycle.mem_coe_iff.mpr (List.mem_cons_of_mem p List.mem_cons_self)

theorem mem_of_reflTransGen (hc : s.IsCycle c) (hp : p ∈ c)
    (h : Relation.ReflTransGen s.Extends p q) : q ∈ c := by
  induction h with
  | refl => exact hp
  | tail _ hstep ih => exact hc.mem_of_extends ih hstep

end IsCycle

/-- From a path on a cycle every step leads back to it. -/
theorem reflTransGen_back {p q : String} (hp : Relation.TransGen s.Extends p p)
    (h : Relation.ReflTransGen s.Extends p q) : Relation.ReflTransGen s.Extends q p := by
  induction h with
  | refl => exact .refl
  | tail _ hstep ih =>
      rcases ih.cases_head with rfl | ⟨r, hr, hback⟩
      · obtain ⟨r, hr, hback⟩ := Relation.TransGen.head'_iff.mp hp
        exact rightUnique_extends s hr hstep ▸ hback
      · exact rightUnique_extends s hr hstep ▸ hback

/-! ## 2. What a walk finds -/

/-- A path from which all chains end is on no cycle. -/
theorem not_transGen_of_acc {p : String} (h : Acc (fun b a => s.Extends a b) p) :
    ¬ Relation.TransGen s.Extends p p := by
  have hback (q : String) (hq : Acc (Relation.TransGen fun b a => s.Extends a b) q) :
      ¬ Relation.TransGen (fun b a => s.Extends a b) q q := by
    induction hq with
    | intro q _ ih => exact fun hself => ih q hself hself
  exact mt Relation.transGen_swap.mpr (hback p h.transGen)

/-- The walk from a type on a cycle finds that cycle. -/
theorem exists_cycleOf {t : TypeDecl} (ht : t ∈ s.types.toList)
    (hp : Relation.TransGen s.Extends t.path t.path) :
    ∃ found, s.cycleOf t = some found ∧ t.path ∈ found.1 := by
  cases hfound : s.cycleOf t with
  | none =>
      -- a walk that finds nothing comes to an end, and this one cannot
      have hacc : Acc (fun b a => s.Extends a b) t.path :=
        acc_of_cycleFrom ht List.nodup_nil (fun _ hm => absurd hm List.not_mem_nil) (by simp) hfound
      exact absurd hp (not_transGen_of_acc hacc)
  | some found =>
      obtain ⟨hcycle, hhead, hreach⟩ := isCycle_of_cycleOf ht hfound
      refine ⟨found, rfl, Cycle.mem_coe_iff.mp ?_⟩
      exact hcycle.mem_of_reflTransGen (Cycle.mem_coe_iff.mpr (List.mem_of_mem_head? hhead))
        (reflTransGen_back hp hreach)

/-! ## 3. Reports -/

/-- The message on a cycle: its paths in order, and the first one again. -/
def cycleMessage (c : List String) : String :=
  "inheritance cycle: " ++ " -> ".intercalate (c ++ c.head?.toList)

theorem append_intercalate_concat (start between last : String) {c : List String} (h : c ≠ []) :
    start ++ between.intercalate (c ++ [last]) =
      start ++ between.intercalate c ++ between ++ last := by
  rw [String.intercalate_append_of_ne_nil h (List.cons_ne_nil last []),
    String.intercalate_singleton, String.append_assoc, String.append_assoc, String.append_assoc]

theorem cycleMessage_eq {c : List String} {closing : String} (h : c.head? = some closing) :
    cycleMessage c = "inheritance cycle: " ++ " -> ".intercalate c ++ " -> " ++ closing := by
  have hne : c ≠ [] := fun he => by rw [he] at h; exact nomatch h
  unfold cycleMessage
  rw [h]
  exact append_intercalate_concat _ _ closing hne

theorem least_cons_cons (a b : String) (rest : List String) :
    least (a :: b :: rest) = if least (b :: rest) < a then least (b :: rest) else a := rfl

theorem least_mem {c : List String} (h : c ≠ []) : least c ∈ c := by
  induction c with
  | nil => exact absurd rfl h
  | cons a rest ih =>
      cases rest with
      | nil => exact List.mem_cons_self
      | cons b rest =>
          rw [least_cons_cons]
          split
          · exact List.mem_cons_of_mem a (ih (List.cons_ne_nil b rest))
          · exact List.mem_cons_self

theorem least_le {c : List String} {p : String} (hp : p ∈ c) : least c ≤ p := by
  induction c with
  | nil => exact absurd hp List.not_mem_nil
  | cons a rest ih =>
      cases rest with
      | nil => exact List.mem_singleton.mp hp ▸ String.le_refl _
      | cons b rest =>
          rw [least_cons_cons]
          rcases List.mem_cons.mp hp with rfl | hp
          · split
            · rename_i hlt
              exact Std.le_of_lt hlt
            · exact String.le_refl p
          · split
            · exact ih hp
            · rename_i hge
              exact String.le_trans (String.not_lt.mp hge) (ih hp)

/-- The least path tells a cycle from the others. -/
theorem least_eq_iff {c d : List String} (hc : s.IsCycle c) (hd : s.IsCycle d) :
    least c = least d ↔ (c : Cycle String) = d := by
  have hleast {e : List String} (he : s.IsCycle e) : least e ∈ e :=
    least_mem (mt (Cycle.coe_eq_nil e).mpr he.nonempty)
  constructor
  · intro h
    exact hc.eq_of_mem hd (Cycle.mem_coe_iff.mpr (hleast hc))
      (Cycle.mem_coe_iff.mpr (h ▸ hleast hd))
  · intro h
    have hmem (p : String) : p ∈ c ↔ p ∈ d := by
      rw [← Cycle.mem_coe_iff, h, Cycle.mem_coe_iff]
    exact String.le_antisymm (least_le ((hmem _).mpr (hleast hd)))
      (least_le ((hmem _).mp (hleast hc)))

/-- **The invariant of the reports.** Of the cycles `known` the reports say no more; each other
cycle that the walk from one of the types finds is reported, each one once. -/
structure Reported (s : Schema) (known : List (List String)) (ts : List TypeDecl)
    (cycles : List (List String)) : Prop where
  isCycle : ∀ c ∈ cycles, s.IsCycle c
  once : ((known ++ cycles).map Cycle.ofList).Nodup
  found : ∀ t ∈ ts, ∀ found ∈ s.cycleOf t,
    (found.1 : Cycle String) ∈ (known ++ cycles).map Cycle.ofList

/-- **One pass over types reports each cycle once** that is not yet known. -/
theorem exists_reported {ts : List TypeDecl} (hts : ∀ t ∈ ts, t ∈ s.types.toList)
    (known : List (List String)) (hknown : ∀ c ∈ known, s.IsCycle c)
    (hn : (known.map Cycle.ofList).Nodup) :
    ∃ cycles, s.cycleMessagesFrom (known.map least) ts = cycles.map cycleMessage ∧
      s.Reported known ts cycles := by
  induction ts generalizing known with
  | nil =>
      exact ⟨[], rfl, fun _ hc => absurd hc List.not_mem_nil, by simpa using hn,
        fun _ hu => absurd hu List.not_mem_nil⟩
  | cons t rest ih =>
      obtain ⟨ht, hrest⟩ := List.forall_mem_cons.mp hts
      rw [cycleMessagesFrom]
      cases hfound : s.cycleOf t with
      | none =>
          obtain ⟨cycles, hmessages, h⟩ := ih hrest known hknown hn
          refine ⟨cycles, hmessages, h.isCycle, h.once, List.forall_mem_cons.mpr ⟨?_, h.found⟩⟩
          exact fun found hf => absurd (hfound.symm.trans hf) (Option.some_ne_none found).symm
      | some found =>
          obtain ⟨c, closing⟩ := found
          obtain ⟨hcycle, hhead, -⟩ := isCycle_of_cycleOf ht hfound
          dsimp only
          split
          · rename_i hc
            obtain ⟨d, hd, hleast⟩ := List.mem_map.mp (List.contains_iff_mem.mp hc)
            obtain ⟨cycles, hmessages, h⟩ := ih hrest known hknown hn
            refine ⟨cycles, hmessages, h.isCycle, h.once, List.forall_mem_cons.mpr ⟨?_, h.found⟩⟩
            rw [hfound]
            rintro _ ⟨⟩
            refine List.mem_map.mpr ⟨d, List.mem_append_left _ hd, ?_⟩
            exact (least_eq_iff (hknown d hd) hcycle).mp hleast
          · rename_i hc
            have hnew : ∀ d ∈ known, (d : Cycle String) ≠ c := fun d hd he =>
              hc (List.contains_iff_mem.mpr (List.mem_map.mpr
                ⟨d, hd, (least_eq_iff (hknown d hd) hcycle).mpr he⟩))
            obtain ⟨cycles, hmessages, h⟩ := ih hrest (c :: known)
              (List.forall_mem_cons.mpr ⟨hcycle, hknown⟩) (by
                refine List.nodup_cons.mpr ⟨fun hmem => ?_, hn⟩
                obtain ⟨d, hd, he⟩ := List.mem_map.mp hmem
                exact hnew d hd he)
            have hperm : (known ++ c :: cycles).Perm (c :: known ++ cycles) := List.perm_middle
            refine ⟨c :: cycles, ?_, List.forall_mem_cons.mpr ⟨hcycle, h.isCycle⟩, ?_, ?_⟩
            · rw [List.map_cons, ← hmessages, cycleMessage_eq hhead]
              rfl
            · exact ((hperm.map _).nodup_iff).mpr h.once
            · refine List.forall_mem_cons.mpr ⟨?_, fun u hu found hf => ?_⟩
              · rw [hfound]
                rintro _ ⟨⟩
                exact List.mem_map_of_mem (List.mem_append_right _ List.mem_cons_self)
              · exact (hperm.map _).mem_iff.mpr (h.found u hu found hf)

/-- A path on a cycle is that of a type. -/
theorem exists_type_of_transGen {p q : String} (h : Relation.TransGen s.Extends p q) :
    ∃ t ∈ s.types.toList, t.path = p := by
  obtain ⟨_, ⟨t, ht, hpath, -⟩, -⟩ := Relation.TransGen.head'_iff.mp h
  exact ⟨t, ht, hpath⟩

/-- **There is one message for each cycle of bases**, and it names the paths of that cycle in order.
The paths named are those on cycles, so a type that merely leads to a cycle adds nothing; and
nothing is added if every chain of bases ends. -/
theorem cycleMessages_eq (s : Schema) : ∃ cycles : List (List String),
    (∀ errs : ErrorTree, s.cycleMessages.foldl ErrorTree.add errs =
      .node (errs.messages ++ cycles.map cycleMessage) errs.children) ∧
    (cycles.map Cycle.ofList).Nodup ∧
    (∀ c : Cycle String, c ∈ cycles.map Cycle.ofList ↔ s.IsCycle c) ∧
    (∀ p, (∃ c ∈ cycles, p ∈ c) ↔ Relation.TransGen s.Extends p p) ∧
    (cycles = [] ↔ WellFounded fun base path => s.Extends path base) := by
  obtain ⟨cycles, hmessages, h⟩ := exists_reported (s := s) (fun _ ht => ht) [] nofun List.nodup_nil
  have hcycles : s.cycleMessages = cycles.map cycleMessage := hmessages
  have hnamed (p : String) : (∃ c ∈ cycles, p ∈ c) ↔ Relation.TransGen s.Extends p p := by
    constructor
    · rintro ⟨c, hc, hp⟩
      have hmem : p ∈ (c : Cycle String) := Cycle.mem_coe_iff.mpr hp
      exact (h.isCycle c hc).transGen_of_mem hmem hmem
    · intro hp
      obtain ⟨t, ht, rfl⟩ := exists_type_of_transGen hp
      obtain ⟨found, hfound, hmem⟩ := exists_cycleOf ht hp
      obtain ⟨c, hc, he⟩ := List.mem_map.mp (h.found t ht found hfound)
      refine ⟨c, hc, Cycle.mem_coe_iff.mp ?_⟩
      rw [show (c : Cycle String) = found.1 from he]
      exact Cycle.mem_coe_iff.mpr hmem
  refine ⟨cycles, fun errs => hcycles ▸ ErrorTree.foldl_add _ errs, h.once,
    fun c => ⟨?_, fun hc => ?_⟩, hnamed, ?_⟩
  · intro hc
    obtain ⟨d, hd, rfl⟩ := List.mem_map.mp hc
    exact h.isCycle d hd
  · obtain ⟨p, hp⟩ : ∃ p, p ∈ c := by
      induction c using Cycle.induction_on with
      | nil => exact absurd rfl hc.nonempty
      | cons p l => exact ⟨p, Cycle.mem_coe_iff.mpr List.mem_cons_self⟩
    obtain ⟨d, hd, hpd⟩ := (hnamed p).mpr (hc.transGen_of_mem hp hp)
    rw [hc.eq_of_mem (h.isCycle d hd) hp (Cycle.mem_coe_iff.mpr hpd)]
    exact List.mem_map_of_mem hd
  · rw [← List.map_eq_nil_iff (f := cycleMessage), ← hcycles, cycleMessages_eq_nil_iff]
    exact ⟨fun hacyclic => wellFounded_extends (cycleOf_eq_none_iff.mpr hacyclic),
      fun hends p => not_transGen_of_acc (hends.apply p)⟩

/-- The walk from `a::A` enters the cycle at `c::C`, and the walks from its members add nothing. -/
example :
    let type (path base : String) : TypeDecl :=
      { (default : TypeDecl) with path, base := some base }
    (ofLists [type "a::A" "c::C", type "b::B" "c::C", type "c::C" "b::B"] []).cycleMessages =
      ["inheritance cycle: c::C -> b::B -> c::C"] := by decide

end Schema

end TypeMapper
