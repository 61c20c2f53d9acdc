import TypeMapper.ErrorTree
import TypeMapper.Proofs.Catalog
/-!
# Trees of messages

A tree of messages is what it holds: its own messages and, under each name, the tree of the place
below. Putting trees together unites what they hold place by place, so no message is lost and none
comes out twice, and how the trees are grouped does not matter. An empty tree never gets below
another one, which is why it leaves no trace.

* `ErrorTree.isEmpty_addFor`, `isEmpty_foldl`: what is put below a tree is not lost.
* `ErrorTree.flattenAt_merge`: the messages of a merged tree are those of both, with their routes.
* `ErrorTree.Tidy`: the INVARIANT of trees: sorted places, and no empty tree below another.
* `ErrorTree.child?_merge`, `Tidy.ext`: a merged tree name by name, and trees that hold the same.
* `ErrorTree.Built`, `ErrorTree.lawful_of_built`: what the operations make, and its laws.
-/

namespace TypeMapper.ErrorTree

/-! ## 1. Trees that hold nothing -/

/-- A message makes a tree hold something. -/
theorem isEmpty_add (t : ErrorTree) (m : String) : (t.add m).isEmpty = false := by
  simp [add, isEmpty]

/-- A place changed into one that holds something makes the places hold something. -/
theorem areEmpty_updateChild {f : ErrorTree → ErrorTree} (hf : ∀ t, (f t).isEmpty = false)
    (name : String) (cs : List (String × ErrorTree)) :
    areEmpty (updateChild name f cs) = false := by
  induction cs with
  | nil => simp [updateChild, areEmpty, hf]
  | cons c rest ih =>
      unfold updateChild
      split
      · simp [areEmpty, hf]
      · split
        · simp [areEmpty, hf]
        · simp [areEmpty, ih]

theorem isEmpty_update {f : ErrorTree → ErrorTree} (hf : ∀ t, (f t).isEmpty = false)
    (route : String) (t : ErrorTree) : (t.update route f).isEmpty = false := by
  cases t with
  | node ms cs => simp [update, isEmpty, areEmpty_updateChild hf]

mutual

/-- Two trees in one hold nothing if and only if neither does. -/
theorem isEmpty_merge : ∀ t c : ErrorTree, (merge t c).isEmpty = (t.isEmpty && c.isEmpty)
  | .node ms cs, .node ms' cs' => by
      rw [merge, isEmpty_mergeChildren]
      cases ms <;> cases ms' <;> simp [isEmpty, messages, children]

theorem isEmpty_mergeChildren : ∀ (t : ErrorTree) (cs : List (String × ErrorTree)),
    (mergeChildren t cs).isEmpty = (t.isEmpty && areEmpty cs)
  | t, [] => by simp [mergeChildren, areEmpty]
  | t, (name, c) :: rest => by
      rw [mergeChildren, isEmpty_mergeChildren, areEmpty]
      cases hc : c.isEmpty with
      | true => simp
      | false =>
          have hm : ∀ old, (merge old c).isEmpty = false := fun old => by
            rw [isEmpty_merge old c, hc, Bool.and_false]
          simp [isEmpty_update hm]

end

/-- **What is put below a tree is not lost.** -/
theorem isEmpty_addFor (t : ErrorTree) (route : String) (c : ErrorTree) :
    (t.addFor route c).isEmpty = (t.isEmpty && c.isEmpty) := by
  unfold addFor
  cases hc : c.isEmpty with
  | true => simp
  | false =>
      have hm : ∀ old, (merge old c).isEmpty = false := fun old => by
        rw [isEmpty_merge old c, hc, Bool.and_false]
      simp [isEmpty_update hm]

/-- Nor is it on the way through a list. -/
theorem isEmpty_foldl {α : Type} {put : ErrorTree → α → ErrorTree} {clean : α → Bool}
    (h : ∀ t x, (put t x).isEmpty = (t.isEmpty && clean x)) (xs : List α) (t : ErrorTree) :
    (xs.foldl put t).isEmpty = (t.isEmpty && xs.all clean) := by
  induction xs generalizing t with
  | nil => simp
  | cons x xs ih => rw [List.foldl_cons, ih, h, List.all_cons, Bool.and_assoc]

theorem isEmpty_foldl_addFor {α : Type} (route : α → String) (below : α → ErrorTree) (xs : List α)
    (t : ErrorTree) : (xs.foldl (fun errs x => errs.addFor (route x) (below x)) t).isEmpty =
      (t.isEmpty && xs.all fun x => (below x).isEmpty) :=
  isEmpty_foldl (fun errs x => isEmpty_addFor errs (route x) (below x)) xs t

theorem result_eq_ok_iff {t : ErrorTree} : t.result = .ok () ↔ t.isEmpty = true := by
  unfold result
  split <;> simp [*]

/-! ## 2. Messages with their routes -/

mutual

/-- **The size of a tree** is the number of messages that are listed. -/
theorem length_flattenAt : ∀ (route : String) (t : ErrorTree), (flattenAt route t).length = t.size
  | route, .node ms cs => by
      rw [flattenAt, size, List.length_append, List.length_map, length_flattenAll route cs]

theorem length_flattenAll : ∀ (route : String) (cs : List (String × ErrorTree)),
    (flattenAll route cs).length = sizes cs
  | _, [] => rfl
  | route, (name, t) :: rest => by
      rw [flattenAll, sizes, List.length_append, length_flattenAt, length_flattenAll route rest]

end

mutual

/-- A tree lists nothing if and only if it holds nothing. -/
theorem flattenAt_eq_nil_iff : ∀ (route : String) (t : ErrorTree),
    flattenAt route t = [] ↔ t.isEmpty = true
  | route, .node ms cs => by
      rw [flattenAt, isEmpty, List.append_eq_nil_iff, List.map_eq_nil_iff, Bool.and_eq_true,
        List.isEmpty_iff, flattenAll_eq_nil_iff route cs]

theorem flattenAll_eq_nil_iff : ∀ (route : String) (cs : List (String × ErrorTree)),
    flattenAll route cs = [] ↔ areEmpty cs = true
  | _, [] => by simp [flattenAll, areEmpty]
  | route, (name, t) :: rest => by
      rw [flattenAll, areEmpty, List.append_eq_nil_iff, Bool.and_eq_true, flattenAt_eq_nil_iff,
        flattenAll_eq_nil_iff route rest]

end

/-- A place whose tree is changed into one that lists `more` as well makes the places list it. -/
theorem flattenAll_updateChild {f : ErrorTree → ErrorTree} {more : String → List (String × String)}
    (hf : ∀ route t, (flattenAt route (f t)).Perm (flattenAt route t ++ more route))
    (route name : String) (cs : List (String × ErrorTree)) :
    (flattenAll route (updateChild name f cs)).Perm
      (flattenAll route cs ++ more (joinRoute route name)) := by
  have hnew : (flattenAt (joinRoute route name) (f empty)).Perm (more (joinRoute route name)) :=
    hf (joinRoute route name) empty
  induction cs with
  | nil =>
      simpa only [updateChild, flattenAll, List.append_nil, List.nil_append] using hnew
  | cons c rest ih =>
      obtain ⟨n, t⟩ := c
      unfold updateChild
      split
      · -- the place is there
        rename_i heq
        subst heq
        rw [flattenAll, flattenAll, List.append_assoc]
        exact ((hf _ t).append_right _).trans
          (by rw [List.append_assoc]; exact List.perm_append_comm.append_left _)
      · split
        · -- the place comes before all others
          rw [flattenAll]
          exact (hnew.append_right _).trans List.perm_append_comm
        · rw [flattenAll, flattenAll, List.append_assoc]
          exact ih.append_left _

mutual

/-- **A merged tree lists what both trees list**, from any place on: the messages of one place come
together, and nothing else changes. -/
theorem flattenAt_merge : ∀ (route : String) (t c : ErrorTree),
    (flattenAt route (merge t c)).Perm (flattenAt route t ++ flattenAt route c)
  | route, .node ms cs, .node ms' cs' => by
      rw [merge]
      refine (flattenAt_mergeChildren route _ cs').trans ?_
      rw [messages, children, flattenAt, flattenAt, flattenAt, List.map_append, List.append_assoc,
        List.append_assoc, List.append_assoc]
      refine List.Perm.append_left _ ?_
      rw [← List.append_assoc, ← List.append_assoc]
      exact List.perm_append_comm.append_right _

theorem flattenAt_mergeChildren : ∀ (route : String) (t : ErrorTree)
    (cs : List (String × ErrorTree)),
    (flattenAt route (mergeChildren t cs)).Perm (flattenAt route t ++ flattenAll route cs)
  | route, t, [] => by
      rw [mergeChildren, flattenAll, List.append_nil]
  | route, t, (name, c) :: rest => by
      rw [mergeChildren, flattenAll, ← List.append_assoc]
      refine (flattenAt_mergeChildren route _ rest).trans (List.Perm.append_right _ ?_)
      split
      · rename_i hc
        rw [(flattenAt_eq_nil_iff _ c).mpr hc, List.append_nil]
      · cases t with
        | node ms cs =>
            rw [update, flattenAt, flattenAt, List.append_assoc]
            exact (flattenAll_updateChild (fun r old => flattenAt_merge r old c) route name
              cs).append_left _

end

/-! ## 3. Tidy trees -/

/-- **The invariant of trees**: the places are in the order of their names, which are distinct, and
no tree below another one is empty. -/
inductive Tidy : ErrorTree → Prop
  | node {ms : List String} {cs : List (String × ErrorTree)} :
    Catalog.Sorted Prod.fst cs → (∀ p ∈ cs, p.2.isEmpty = false) → (∀ p ∈ cs, Tidy p.2) →
      Tidy (.node ms cs)

/-- The tree below a name. -/
def childIn (name : String) (cs : List (String × ErrorTree)) : Option ErrorTree :=
  (Catalog.lookup Prod.fst name cs).map Prod.snd

/-- The tree of the place below under a name. -/
def child? (t : ErrorTree) (name : String) : Option ErrorTree := childIn name t.children

theorem children_update (t : ErrorTree) (name : String) (f : ErrorTree → ErrorTree) :
    (t.update name f).children = updateChild name f t.children := by
  cases t with
  | node ms cs => rfl

variable {t u c x : ErrorTree} {name n : String} {cs : List (String × ErrorTree)}

theorem childIn_cons : childIn n ((name, x) :: cs) = if name = n then some x else childIn n cs := by
  unfold childIn Catalog.lookup
  by_cases h : name = n <;> simp [h]

/-- There is no place under a name before all others. -/
theorem childIn_of_forall_lt (h : ∀ p ∈ cs, n < p.1) : childIn n cs = none := by
  rw [childIn, Option.map_eq_none_iff, Catalog.lookup, List.find?_eq_none]
  intro p hp heq
  exact String.lt_irrefl _ (eq_of_beq heq ▸ h p hp)

/-- To change a tree below a name is to enter the changed one under it. -/
theorem updateChild_eq (f : ErrorTree → ErrorTree) (h : Catalog.Sorted Prod.fst cs) :
    updateChild name f cs =
      Catalog.enter Prod.fst (name, f ((childIn name cs).getD empty)) cs := by
  induction cs with
  | nil => rfl
  | cons p rest ih =>
      obtain ⟨n, t⟩ := p
      obtain ⟨hn, hrest⟩ := List.pairwise_cons.mp h
      rw [childIn_cons]
      unfold updateChild Catalog.enter
      by_cases heq : name = n
      · subst heq
        simp
      · by_cases hlt : name < n
        · have hnone : childIn name rest = none :=
            childIn_of_forall_lt fun p hp => String.lt_trans hlt (hn p hp)
          simp [heq, Ne.symm heq, hlt, hnone]
        · simp [heq, Ne.symm heq, hlt, ih hrest]

theorem childIn_updateChild (f : ErrorTree → ErrorTree) (h : Catalog.Sorted Prod.fst cs) :
    childIn n (updateChild name f cs) =
      if name = n then some (f ((childIn name cs).getD empty)) else childIn n cs := by
  rw [updateChild_eq f h, childIn, Catalog.lookup_enter]
  split
  · rfl
  · rfl

/-- The places below are what is found under the names. -/
theorem mem_iff_childIn (h : Catalog.Sorted Prod.fst cs) : (n, x) ∈ cs ↔ childIn n cs = some x := by
  unfold childIn
  rw [Option.map_eq_some_iff]
  constructor
  · exact fun hx => ⟨(n, x), Catalog.lookup_of_mem h hx, rfl⟩
  · rintro ⟨p, hp, rfl⟩
    obtain rfl : p.1 = n := by simpa using List.find?_some hp
    exact List.mem_of_find?_eq_some hp

namespace Tidy

theorem iff_children : Tidy t ↔ Catalog.Sorted Prod.fst t.children ∧
    ∀ p ∈ t.children, p.2.isEmpty = false ∧ Tidy p.2 := by
  cases t with
  | node ms cs =>
      constructor
      · rintro ⟨hs, hfull, htidy⟩
        exact ⟨hs, fun p hp => ⟨hfull p hp, htidy p hp⟩⟩
      · rintro ⟨hs, hall⟩
        exact .node hs (fun p hp => (hall p hp).1) fun p hp => (hall p hp).2

theorem sorted (h : Tidy t) : Catalog.Sorted Prod.fst t.children := (iff_children.mp h).1

/-- **Trees that hold the same are the same**: the messages of the place and the tree under each
name say everything. -/
theorem ext (ht : Tidy t) (hu : Tidy u) (hm : t.messages = u.messages)
    (hc : ∀ n, t.child? n = u.child? n) : t = u := by
  have hmem : ∀ p, p ∈ t.children ↔ p ∈ u.children := by
    rintro ⟨n, x⟩
    rw [mem_iff_childIn ht.sorted, mem_iff_childIn hu.sorted]
    exact iff_of_eq (congrArg (· = some x) (hc n))
  have hchildren := Catalog.eq_of_mem_iff ht.sorted hu.sorted hmem
  cases t with
  | node ms cs =>
      cases u with
      | node ms' cs' => exact congrArg₂ ErrorTree.node hm hchildren

/-! ## 4. What the operations keep -/

theorem empty : Tidy ErrorTree.empty := .node .nil nofun nofun

/-- The messages of the place itself are of no account. -/
theorem of_children (h : Tidy t) (ms : List String) : Tidy (.node ms t.children) := by
  have hall := iff_children.mp h
  exact iff_children.mpr hall

/-- The tree that a change below a name starts from. -/
theorem old (h : Tidy t) (name : String) : Tidy ((childIn name t.children).getD .empty) := by
  cases hx : childIn name t.children with
  | none => exact empty
  | some x => exact ((iff_children.mp h).2 _ ((mem_iff_childIn h.sorted).mpr hx)).2

/-- **A change below a name keeps the invariant** if it leaves a tidy tree there that holds
something. -/
theorem update {f : ErrorTree → ErrorTree} (hf : ∀ u, Tidy u → Tidy (f u) ∧ (f u).isEmpty = false)
    (h : Tidy t) (name : String) : Tidy (t.update name f) := by
  have hnew := hf _ (h.old name)
  rw [iff_children, children_update, updateChild_eq f h.sorted]
  refine ⟨Catalog.sorted_enter _ _ h.sorted, fun p hp => ?_⟩
  rcases Catalog.mem_of_mem_enter _ hp with rfl | hp
  · exact ⟨hnew.2, hnew.1⟩
  · exact (iff_children.mp h).2 p hp

/-- Trees put below names one after the other, if each can be folded into a tidy tree. -/
theorem mergeChildren (hfold : ∀ p ∈ cs, ∀ t, Tidy t → Tidy (ErrorTree.merge t p.2))
    (h : Tidy t) : Tidy (ErrorTree.mergeChildren t cs) := by
  induction cs generalizing t with
  | nil =>
      rw [ErrorTree.mergeChildren]
      exact h
  | cons p rest ih =>
      obtain ⟨name, x⟩ := p
      rw [ErrorTree.mergeChildren]
      refine ih (fun q hq => hfold q (List.mem_cons_of_mem _ hq)) ?_
      split
      · exact h
      · rename_i hx
        refine h.update (fun u hu => ⟨hfold _ List.mem_cons_self u hu, ?_⟩) name
        rw [isEmpty_merge, Bool.eq_false_iff.mpr hx, Bool.and_false]

/-- **Folding a tidy tree into another keeps the invariant.** -/
theorem merge (hc : Tidy c) : ∀ t, Tidy t → Tidy (ErrorTree.merge t c) := by
  induction hc with
  | @node ms cs _ _ _ ih =>
      intro t ht
      rw [ErrorTree.merge]
      exact mergeChildren ih (ht.of_children _)

theorem addFor (hc : Tidy c) (h : Tidy t) (route : String) : Tidy (t.addFor route c) := by
  unfold ErrorTree.addFor
  split
  · exact h
  · rename_i hx
    refine h.update (fun u hu => ⟨hc.merge u hu, ?_⟩) route
    rw [isEmpty_merge, Bool.eq_false_iff.mpr hx, Bool.and_false]

end Tidy

/-! ## 5. A merged tree, name by name -/

theorem messages_mergeChildren : ∀ (t : ErrorTree) (cs : List (String × ErrorTree)),
    (mergeChildren t cs).messages = t.messages
  | t, [] => by rw [mergeChildren]
  | .node ms cs, (name, x) :: rest => by
      rw [mergeChildren, messages_mergeChildren]
      split
      · rfl
      · rfl

theorem messages_merge : (merge t c).messages = t.messages ++ c.messages := by
  cases c with
  | node ms cs =>
      rw [merge, messages_mergeChildren]
      rfl

theorem child?_update {f : ErrorTree → ErrorTree} (h : Tidy t) : (t.update name f).child? n =
    if name = n then some (f ((t.child? name).getD empty)) else t.child? n := by
  rw [child?, children_update]
  exact childIn_updateChild f h.sorted

theorem child?_mergeChildren (hs : Catalog.Sorted Prod.fst cs)
    (hcs : ∀ p ∈ cs, p.2.isEmpty = false ∧ Tidy p.2) (h : Tidy t) :
    (mergeChildren t cs).child? n =
      (childIn n cs).elim (t.child? n) fun x => some (merge ((t.child? n).getD empty) x) := by
  induction cs generalizing t with
  | nil =>
      rw [mergeChildren]
      rfl
  | cons p rest ih =>
      obtain ⟨name, x⟩ := p
      obtain ⟨hname, hrest⟩ := List.pairwise_cons.mp hs
      obtain ⟨⟨hfull, hx⟩, hothers⟩ := List.forall_mem_cons.mp hcs
      have hupdate : Tidy (t.update name fun old => merge old x) :=
        h.update (fun u hu => ⟨hx.merge u hu, by rw [isEmpty_merge, hfull, Bool.and_false]⟩) name
      rw [mergeChildren, if_neg (by rw [hfull]; exact Bool.false_ne_true),
        ih hrest hothers hupdate, child?_update h, childIn_cons]
      by_cases heq : name = n
      · subst heq
        rw [if_pos rfl, if_pos rfl, childIn_of_forall_lt hname]
        rfl
      · rw [if_neg heq, if_neg heq]

/-- **A merged tree, name by name**: the tree under a name is that of the one tree with a name, or
both in one. -/
theorem child?_merge (ht : Tidy t) (hc : Tidy c) : (merge t c).child? n =
    (c.child? n).elim (t.child? n) fun x => some (merge ((t.child? n).getD empty) x) := by
  obtain ⟨hs, hall⟩ := Tidy.iff_children.mp hc
  cases c with
  | node ms cs =>
      rw [merge]
      exact child?_mergeChildren hs hall (ht.of_children _)

/-! ## 6. Laws -/

theorem merge_empty (t : ErrorTree) : merge t empty = t := by
  cases t with
  | node ms cs => simp [merge, mergeChildren, empty, messages, children]

/-- **The empty tree is neutral.** -/
theorem empty_merge (h : Tidy t) : merge empty t = t := by
  induction h with
  | @node ms cs hs hfull htidy ih =>
      have h : Tidy (.node ms cs) := .node hs hfull htidy
      refine (h.merge _ Tidy.empty).ext h ?_ fun n => ?_
      · rw [messages_merge]
        rfl
      · rw [child?_merge Tidy.empty h]
        cases hx : child? (.node ms cs) n with
        | none => rfl
        | some x =>
            have hmem : (n, x) ∈ cs := (mem_iff_childIn hs).mpr hx
            exact congrArg some (ih (n, x) hmem)

/-- **How trees are grouped does not matter.** -/
theorem merge_assoc (hc : Tidy c) : ∀ t u, Tidy t → Tidy u →
    merge (merge t u) c = merge t (merge u c) := by
  induction hc with
  | @node ms cs hs hfull htidy ih =>
      intro t u ht hu
      have hc : Tidy (.node ms cs) := .node hs hfull htidy
      have htu := hu.merge t ht
      have huc := hc.merge u hu
      refine (hc.merge _ htu).ext (huc.merge t ht) ?_ fun n => ?_
      · simp only [messages_merge, List.append_assoc]
      · rw [child?_merge htu hc, child?_merge ht huc, child?_merge ht hu, child?_merge hu hc]
        cases hx : child? (.node ms cs) n with
        | none => rfl
        | some x =>
            have hmem : (n, x) ∈ cs := (mem_iff_childIn hs).mpr hx
            cases hy : u.child? n with
            | none =>
                have hx := empty_merge (htidy (n, x) hmem)
                exact congrArg (fun z => some (merge ((t.child? n).getD empty) z)) hx.symm
            | some y =>
                have hy := ((Tidy.iff_children.mp hu).2 _ ((mem_iff_childIn hu.sorted).mpr hy)).2
                exact congrArg some (ih (n, x) hmem _ y (ht.old n) hy)

/-! ## 7. Trees that are built -/

/-- **The trees that can be built** from empty ones. -/
inductive Built : ErrorTree → Prop
  | empty : Built empty
  | add {t : ErrorTree} (message : String) : Built t → Built (t.add message)
  | addFor {t c : ErrorTree} (route : String) : Built t → Built c → Built (t.addFor route c)
  | addResult {t : ErrorTree} {outcome : Except ErrorTree Unit} (route : String) : Built t →
      (∀ c, outcome = .error c → Built c) → Built (t.addResult route outcome)
  | merge {t c : ErrorTree} : Built t → Built c → Built (merge t c)

/-- **What is built is tidy.** -/
theorem Built.tidy (h : Built t) : Tidy t := by
  induction h with
  | empty => exact .empty
  | add message _ ih => exact ih.of_children _
  | addFor route _ _ iht ihc => exact ihc.addFor iht route
  | @addResult t outcome route _ _ iht ihc =>
      cases outcome with
      | ok => exact iht
      | error c => exact (ihc c rfl).addFor iht route
  | merge _ _ iht ihc => exact ihc.merge _ iht

/-- The first tree has the second one somewhere below it. -/
inductive Stores : ErrorTree → ErrorTree → Prop
  | child {t c : ErrorTree} {name : String} : (name, c) ∈ t.children → Stores t c
  | deeper {t c d : ErrorTree} {name : String} : (name, c) ∈ t.children → Stores c d → Stores t d

/-- **Nothing that a tidy tree stores is empty**, at any depth. -/
theorem Stores.isEmpty (h : Stores t c) (ht : Tidy t) : c.isEmpty = false := by
  induction h with
  | child hc => exact ((Tidy.iff_children.mp ht).2 _ hc).1
  | deeper hc _ ih => exact ih ((Tidy.iff_children.mp ht).2 _ hc).2

/-- **The laws of a tree of messages.** -/
structure Lawful (t : ErrorTree) : Prop where
  /-- No tree below it, at any depth, is empty. -/
  solid : ∀ c, t.Stores c → c.isEmpty = false
  size : t.size = t.flatten.length
  result : t.result = if t.flatten = [] then .ok () else .error t
  empty_merge : merge empty t = t
  merge_empty : merge t empty = t
  /-- No message and no route is lost or comes out twice. -/
  flatten_merge : ∀ u, Built u → (merge t u).flatten.Perm (t.flatten ++ u.flatten)
  merge_assoc : ∀ u c, Built u → Built c → merge (merge t u) c = merge t (merge u c)

/-- **Every tree that is built obeys the laws.** -/
theorem lawful_of_built (h : Built t) : Lawful t where
  solid _ hc := hc.isEmpty h.tidy
  size := (length_flattenAt "" t).symm
  result := by
    rw [ErrorTree.result]
    exact if_congr (flattenAt_eq_nil_iff "" t).symm rfl rfl
  empty_merge := ErrorTree.empty_merge h.tidy
  merge_empty := ErrorTree.merge_empty t
  flatten_merge u _ := flattenAt_merge "" t u
  merge_assoc u c hu hc := ErrorTree.merge_assoc hc.tidy t u h.tidy hu.tidy

/-- A tree with problems of a person below those of a schema. -/
def personTree : ErrorTree :=
  ((empty.add "cycle").addResult "model::Person" (empty.add "no name").result).merge
    (empty.addFor "model::Person" ((empty.add "no base").addFor "age" (empty.add "no type")))

/-- What is said of a person twice comes together. -/
theorem lawful_of_person : Built personTree ∧ Lawful personTree ∧ personTree.flatten =
    [("", "cycle"), ("model::Person", "no name"), ("model::Person", "no base"),
      ("model::Person/age", "no type")] := by
  have hname : ∀ c, (empty.add "no name").result = .error c → Built c := fun c hc => by
    obtain rfl := Except.error.inj hc
    exact .add _ .empty
  have hbuilt : Built personTree := .merge (.addResult _ (.add _ .empty) hname)
    (.addFor _ .empty (.addFor _ (.add _ .empty) (.add _ .empty)))
  exact ⟨hbuilt, lawful_of_built hbuilt, by decide +kernel⟩

end TypeMapper.ErrorTree
