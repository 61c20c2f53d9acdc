import TypeMapper.Proofs.Routine.Made
import TypeMapper.Proofs.Routine.Spelling
/-!
# What a projection looks up

A projection calls no helper and writes out what its calls come to, in the literals of other
mappings and so on. In an arena where the calls of accepted mappings go to accepted mappings every
literal of an accepted mapping can be written, and only the spelling of a text or of a made name can
fail.

* `Arena.CallsAccepted`: the calls of accepted mappings go to accepted mappings.
* `Inliner.Handles`: a strategy is a call that can be written out; `Inliner.along_lexical`.
* `Emitter.literalFrom_of_deepest_lt`: the bound on the levels of a literal does not cut it short.
* `Emitter.literalFrom_lexical`: literals, by induction on the number of levels.
* `Emitter.projection_lexical`: the projection of an accepted mapping.
-/

namespace TypeMapper

open Emit

/-- The calls of accepted mappings have targets, which are accepted. -/
def Arena.CallsAccepted (a : Arena) : Prop :=
  ∀ id m, a.get? id = some m → m.isValid = true → ∀ c ∈ m.delegates,
    ∃ t k, c.target = some t ∧ a.get? t = some k ∧ k.isValid = true

/-! ## 1. Slots -/

namespace Inliner

/-- The strategy is a call that can be written out anywhere. -/
def Handles (inline : Inliner) (N : String → Prop) (s : Strategy) : Prop :=
  ∃ c, s = .delegate c ∧ ∀ p, Lexical N (inline c p)

variable {N : String → Prop} {inline : Inliner}

theorem convert_lexical {s : Option Strategy} (hs : ∀ t ∈ s, inline.Handles N t) (p : Place)
    (byValue : Bool) : Lexical N (inline.convert s p byValue) := by
  cases s with
  | none => exact lexical_ok _
  | some t =>
      obtain ⟨c, rfl, hc⟩ := hs t rfl
      exact hc p

section Slot

variable {el : ElementMapping} (hs : ∀ t ∈ el.strategy, inline.Handles N t)

include hs

theorem slotValue_lexical (binding : String) : Lexical N (inline.slotValue el binding) :=
  (convert_lexical hs _ _).bind fun _ _ => lexical_ok _

theorem slot_lexical (p : Place) (binding : String) : Lexical N (inline.slot el p binding) := by
  unfold slot
  split
  · exact (convert_lexical hs p _).bind fun _ _ => lexical_ok _
  · exact (slotValue_lexical hs binding).bind fun _ _ => lexical_ok _
  · exact (slotValue_lexical hs binding).bind fun _ _ => lexical_ok _

theorem mapSlot_lexical (binding : String) : Lexical N (inline.mapSlot el binding) := by
  unfold mapSlot
  dsimp only
  split
  · exact (slotValue_lexical hs binding).bind fun _ _ => lexical_ok _
  · exact slot_lexical hs _ binding

theorem collection_lexical (depth : Nat) (p : Place) (target : CollectionKind) :
    Lexical N (inline.collection depth p target el) := by
  unfold collection
  dsimp only
  split
  · exact lexical_ok _
  · split
    · exact (slotValue_lexical hs _).bind fun _ _ => lexical_ok _
    · exact (slot_lexical hs _ _).bind fun _ _ => lexical_ok _

end Slot

theorem entries_lexical {k v : ElementMapping} (hk : ∀ t ∈ k.strategy, inline.Handles N t)
    (hv : ∀ t ∈ v.strategy, inline.Handles N t) (depth : Nat) (p : Place) (target : MapKind) :
    Lexical N (inline.entries depth p target k v) :=
  (mapSlot_lexical hk _).bind fun _ _ => (mapSlot_lexical hv _).bind fun _ _ => lexical_ok _

theorem tupleFrom_lexical {els : List ElementMapping}
    (hs : ∀ el ∈ els, ∀ t ∈ el.strategy, inline.Handles N t) (depth : Nat) (p : Place) (i : Nat) :
    Lexical N (inline.tupleFrom depth p i els) := by
  induction els generalizing i with
  | nil => exact lexical_ok []
  | cons el rest ih =>
      unfold tupleFrom
      refine (slot_lexical (hs el List.mem_cons_self) _ _).bind fun _ _ => ?_
      exact (ih (fun el' he => hs el' (List.mem_cons_of_mem el he)) (i + 1)).bind
        fun _ _ => lexical_ok _

/-! ## 2. Properties -/

section Property

variable {m : PropertyMapping} (hm : ∀ t ∈ m.strategies, inline.Handles N t)

include hm

theorem terminal_lexical (depth : Nat) (p : Place) : Lexical N (inline.terminal depth m p) := by
  have hel : ∀ el ∈ m.shape.elements, ∀ t ∈ el.strategy, inline.Handles N t :=
    fun el he t ht => hm t (PropertyMapping.mem_strategies_of_element he ht)
  unfold terminal
  cases hshape : m.shape with
  | scalar =>
      refine (convert_lexical (fun t ht => hm t ?_) p _).bind fun _ _ => lexical_ok _
      exact List.mem_append_left _ (Option.mem_toList.mpr ht)
  | collection s target el =>
      rw [hshape] at hel
      exact (collection_lexical (hel el List.mem_cons_self) depth p target).bind
        fun _ _ => lexical_ok _
  | map target k v =>
      rw [hshape] at hel
      exact (entries_lexical (hel k List.mem_cons_self)
        (hel v (List.mem_cons_of_mem k List.mem_cons_self)) depth p target).bind
          fun _ _ => lexical_ok _
  | tuple els =>
      rw [hshape] at hel
      exact ((tupleFrom_lexical hel depth p 0).map _).bind fun _ _ => lexical_ok _

/-- **The value of a property whose strategies can all be written out.** -/
theorem along_lexical (depth : Nat) (base : Place) (hops : List Hop)
    (hN : ∀ hop ∈ hops, ∀ policy, hop.onNull = some policy → N (atDepth hop.name depth)) :
    Lexical N (inline.along depth m base hops) := by
  induction hops generalizing base with
  | nil => exact terminal_lexical hm depth base
  | cons hop rest ih =>
      unfold along
      have hrest := fun base => ih base fun hop' hmem => hN hop' (List.mem_cons_of_mem hop hmem)
      refine (spelledName_lexical hop.name).bind fun _ _ => ?_
      cases hnull : hop.onNull with
      | none => exact hrest _
      | some policy =>
          refine (made_lexical (hN hop List.mem_cons_self policy hnull)).bind fun _ _ => ?_
          exact (hrest _).bind fun _ _ => lexical_ok _

end Property

end Inliner

/-! ## 3. Literals -/

/-- No mapping of an arena allows a greater depth than the deepest. -/
theorem Arena.le_deepest {a : Arena} {id : MappingId} {m : Mapping} (h : a.get? id = some m) :
    m.maxRecursionDepth.toNat ≤ a.deepest := by
  have hfold : ∀ (ms : List Mapping) (d : Nat),
      let r := ms.foldl (fun d m => max d m.maxRecursionDepth.toNat) d
      d ≤ r ∧ ∀ m ∈ ms, m.maxRecursionDepth.toNat ≤ r := fun ms => by
    induction ms with
    | nil => exact fun d => ⟨Nat.le_refl d, nofun⟩
    | cons x rest ih =>
        intro d
        obtain ⟨hstart, hrest⟩ := ih (max d x.maxRecursionDepth.toNat)
        refine ⟨Nat.le_trans (Nat.le_max_left _ _) hstart, fun m hm => ?_⟩
        rcases List.mem_cons.mp hm with rfl | hm
        · exact Nat.le_trans (Nat.le_max_right _ _) hstart
        · exact hrest m hm
  exact (hfold a.mappings 0).2 m (Arena.mem_mappings_of_get? h)

namespace Emitter

variable {N : String → Prop} {e : Emitter} {id : MappingId} {m : Mapping}

/-- **The number of levels does not cut a literal short**: any number that goes past the greatest
depth of the arena gives the same. -/
theorem literalFrom_of_deepest_lt {n k depth : Nat} (hd : depth ≤ e.arena.deepest)
    (hn : e.arena.deepest < depth + n) (hk : e.arena.deepest < depth + k) (id : MappingId)
    (input : Place) : e.literalFrom n depth id input = e.literalFrom k depth id input := by
  induction n generalizing k depth id input with
  | zero => omega
  | succ n ih =>
      obtain _ | k := k
      · omega
      -- a call is written out only if its depth is one that its target allows
      have hcall : e.inlineAt (e.literalFrom n (depth + 1)) depth =
          e.inlineAt (e.literalFrom k (depth + 1)) depth := by
        funext c p
        unfold inlineAt
        cases c.target with
        | none => rfl
        | some t =>
            show (Emit.ofOption (e.arena.get? t) _ >>= _) = Emit.ofOption (e.arena.get? t) _ >>= _
            cases ht : e.arena.get? t with
            | none => rfl
            | some target =>
                show (if _ then _ else _) = if _ then _ else _
                split
                · rfl
                · have hle := Arena.le_deepest ht
                  have hbelow : e.literalFrom n (depth + 1) t = e.literalFrom k (depth + 1) t :=
                    funext fun q => ih (by omega) (by omega) (by omega) t q
                  rw [hbelow]
      unfold literalFrom
      rw [hcall]

/-- A call of an accepted mapping can be written out, if the literals below can. -/
theorem inlineAt_lexical (ha : e.arena.CallsAccepted) {literal : MappingId → Place → Emit Value}
    (hl : ∀ t k, e.arena.Delegates id t → e.arena.get? t = some k → k.isValid = true →
      ∀ p, Lexical N (literal t p))
    (hm : e.arena.get? id = some m) (hv : m.isValid = true) {c : DelegateCall}
    (hc : c ∈ m.delegates) (depth : Nat) (p : Place) :
    Lexical N (e.inlineAt literal depth c p) := by
  obtain ⟨t, k, ht, hk, hkv⟩ := ha id m hm hv c hc
  unfold inlineAt
  refine lexical_bind_ofOption ht (lexical_bind_ofOption hk ?_)
  split
  · exact lexical_ok _
  · have hstep : e.arena.Delegates id t := ⟨m, hm, Arena.mem_targets_iff.mpr ⟨c, hc, ht⟩⟩
    exact (hl t k hstep hk hkv _).bind fun _ _ => lexical_ok _

/-- A property without helpers has calls for its strategies, and these can be written out. -/
theorem projectedField_lexical {inline : Inliner}
    (hi : ∀ c ∈ m.delegates, ∀ p, Lexical N (inline c p)) {q : PropertyMapping}
    (hq : q ∈ m.properties) (hhelp : q.needsHelper = false) (input : Place) {depth : Nat}
    (hN : ∀ hop ∈ q.source, ∀ policy, hop.onNull = some policy → N (atDepth hop.name depth)) :
    Lexical N (projectedField inline m input depth q) := by
  have hs : ∀ t ∈ q.strategies, inline.Handles N t := fun t ht => by
    have hno : t.needsHelper = false := Bool.eq_false_iff.mpr fun hyes =>
      Bool.eq_false_iff.mp hhelp (List.any_eq_true.mpr ⟨t, ht, hyes⟩)
    cases t with
    | delegate c =>
        refine ⟨c, rfl, hi c ?_⟩
        exact List.mem_filterMap.mpr ⟨_, List.mem_flatMap.mpr ⟨q, hq, ht⟩, rfl⟩
    | method c => cases hno
    | resolver c => cases hno
  unfold projectedField
  refine (spelledName_lexical _).bind fun _ _ => ?_
  split
  · exact lexical_ok _
  · exact (Inliner.along_lexical hs depth input _ hN).bind fun _ _ => lexical_ok _

/-- **The literal of an accepted mapping** at any depth, with any number of levels below. -/
theorem literalFrom_lexical (ha : e.arena.CallsAccepted) (hask : e.config.expressionVariant = true)
    (fuel depth : Nat) (hreach : Relation.ReflTransGen e.arena.Delegates e.id id)
    (hm : e.arena.get? id = some m) (hv : m.isValid = true) (input : Place) :
    Lexical e.MakesName (e.literalFrom fuel depth id input) := by
  induction fuel generalizing depth id m input with
  | zero => exact lexical_ok _
  | succ fuel ih =>
      unfold literalFrom
      refine lexical_bind_ofOption hm ?_
      refine (e.scope.path_lexical m.destination).bind fun _ _ => ?_
      refine (lexical_mapM fun q hq => ?_).bind fun _ _ => lexical_ok _
      obtain ⟨hq, hhelp⟩ := List.mem_filter.mp hq
      have hhelp : q.needsHelper = false := (Bool.not_eq_true' _).mp hhelp
      refine projectedField_lexical (fun c hc p => ?_) hq hhelp input
        fun hop hhop policy hnull => .inlined hask hreach hm hq hhop hnull
      exact inlineAt_lexical ha
        (fun t k hstep hk hkv p => ih (depth + 1) (hreach.tail hstep) hk hkv p) hm hv hc depth p

/-- **The projection of an accepted mapping**, if it is asked for, fails only for the spelling of a
text. -/
theorem projection_lexical (hn : e.names = RoutineNames.ofArena e.arena)
    (ha : e.arena.CallsAccepted) (hask : e.config.expressionVariant = true)
    (hm : e.arena.get? e.id = some e.mapping) (hv : e.mapping.isValid = true) :
    Lexical e.MakesName e.projection := by
  have hname : Lexical e.MakesName (e.names.projection e.id) := by
    rw [hn]
    exact RoutineNames.projection_lexical hm fun base hbase => .projection hask (hn ▸ hbase)
  unfold projection
  refine hname.bind fun _ _ => ?_
  refine (e.scope.path_lexical e.mapping.source).bind fun _ _ => ?_
  refine (e.scope.path_lexical e.mapping.destination).bind fun _ _ => ?_
  exact (literalFrom_lexical ha hask _ 0 .refl hm hv _).bind fun _ _ => lexical_ok _

end Emitter

end TypeMapper
