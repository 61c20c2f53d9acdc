import TypeMapper.Proofs.Construction.Nullability
/-!
# Property mappings step by step

A property mapping starts as a copy along a chain and then takes steps: it gets a strategy or a
container, its settings, and policies for its links. Steps come in any order and number, and only
those are refused that would put a strategy beside another one or beside a container. What has come
of the accepted steps can be read off them: of each kind the last one counts, and there is at most
one strategy among them.

* `PropertyMapping.Step`, `take`, `run`: the steps, one by one and in a row.
* `PropertyMapping.Refuses`, `take_eq_error_iff`: the steps that are refused.
* `PropertyMapping.Made`, `Made.take`, `Made.run`: the INVARIANT of a mapping and its steps.
* `PropertyMapping.Settled`, `settled_of_run`: what no steps can change.
* `Mapping.exists_steps_of_build`: the properties that are built are all made in steps.
-/

namespace TypeMapper

/-! ## 1. Links under policies -/

namespace Hop

/-- A link that was given policies in a row: the last one counts if the value may be absent, and
none does if it may not. -/
def under (h : Hop) (policies : List NullPolicy) : Hop :=
  if h.nullable then { h with onNull := policies.getLast?.or h.onNull } else h

theorem under_nil (h : Hop) : h.under [] = h := by
  unfold under
  split <;> rfl

@[simp] theorem bare_under (h : Hop) (policies : List NullPolicy) :
    PropertyBuilder.bare (h.under policies) = PropertyBuilder.bare h := by
  unfold under
  split <;> rfl

theorem nullable_under (h : Hop) (policies : List NullPolicy) :
    (h.under policies).nullable = h.nullable := by
  unfold under
  split <;> rfl

/-- A link whose value is always there keeps the policy that it came with. -/
theorem under_of_not_nullable {h : Hop} (hh : h.nullable = false) (policies : List NullPolicy) :
    h.under policies = h := by
  rw [under, hh]
  rfl

/-- More policies for a link. -/
theorem under_under (h : Hop) (front back : List NullPolicy) :
    (h.under front).under back = h.under (front ++ back) := by
  cases hh : h.nullable with
  | false =>
      rw [under_of_not_nullable hh, under_of_not_nullable hh, under_of_not_nullable hh]
  | true =>
      rw [under, nullable_under, hh, under, under, hh, List.getLast?_append, Option.or_assoc]
      rfl

/-- A link that differs only in its policy gets that policy. -/
theorem under_of_bare {h hop : Hop} (hbare : PropertyBuilder.bare h = PropertyBuilder.bare hop)
    (hnone : h.onNull = none) (hfit : hop.nullable = false → hop.onNull = none) :
    h.under hop.onNull.toList = hop := by
  obtain ⟨name, ty, byValue, onNull⟩ := hop
  obtain ⟨name', ty', byValue', onNull'⟩ := h
  simp only [PropertyBuilder.bare, mk.injEq, and_true] at hbare
  obtain ⟨rfl, rfl, rfl⟩ := hbare
  obtain rfl : onNull' = none := hnone
  cases onNull with
  | none => exact under_nil _
  | some policy =>
      have hnull : nullable ⟨name', ty', byValue', none⟩ = true :=
        Bool.of_not_eq_false fun hnull => absurd (hfit hnull) (Option.some_ne_none policy)
      rw [under, hnull]
      rfl

/-- A chain of properties that are read comes without policies. -/
theorem onNull_of_mem_map_ofProperty {reads : List Property} {hop : Hop}
    (h : hop ∈ reads.map ofProperty) : hop.onNull = none := by
  obtain ⟨_, -, rfl⟩ := List.mem_map.mp h
  rfl

theorem mapIdx_under_nil (source : List Hop) : (source.mapIdx fun _ h => h.under []) = source := by
  simp only [under_nil]
  exact List.ext_getElem? fun i => by simp

end Hop

namespace PropertyMapping

variable {p q : PropertyMapping} {chain : List Hop} {goal : PropertyEnd}

/-! ## 2. Steps -/

/-- A step in making a property mapping. -/
inductive Step where
  /-- Convert the whole value. -/
  | strategy (s : Strategy)
  /-- Map slot by slot. -/
  | shape (s : Shape)
  | ignoreNull (b : Bool)
  | maxRecursionDepth (d : Option UInt32)
  /-- Give the link at a position a policy. -/
  | hopPolicy (i : Nat) (policy : NullPolicy)
  deriving DecidableEq, Repr

namespace Step

/-- The strategy that a step asks for. -/
def strategy? : Step → Option Strategy
  | .strategy s => some s
  | _ => none

/-- The shape that a step asks for. -/
def shape? : Step → Option Shape
  | .shape s => some s
  | _ => none

/-- What a step says about absent values. -/
def ignoreNull? : Step → Option Bool
  | .ignoreNull b => some b
  | _ => none

/-- What a step says about the depth of unrolling. -/
def depth? : Step → Option (Option UInt32)
  | .maxRecursionDepth d => some d
  | _ => none

/-- The policy that a step has for the link at a position. -/
def policyAt? (i : Nat) : Step → Option NullPolicy
  | .hopPolicy j policy => if j = i then some policy else none
  | _ => none

end Step

/-- Take a step, which may be refused. -/
def take (p : PropertyMapping) : Step → Except StrategyConflict PropertyMapping
  | .strategy s => p.withStrategy s
  | .shape s => p.withShape s
  | .ignoreNull b => .ok (p.withIgnoreNull b)
  | .maxRecursionDepth d => .ok (p.withMaxRecursionDepth d)
  | .hopPolicy i policy => .ok (p.withHopPolicy i policy)

/-- Take steps in a row, each of which has to be accepted. -/
def run (p : PropertyMapping) (steps : List Step) : Except StrategyConflict PropertyMapping :=
  steps.foldlM take p

theorem run_cons (p : PropertyMapping) (c : Step) (steps : List Step) :
    p.run (c :: steps) = (p.take c).bind fun q => q.run steps := rfl

theorem run_append (p : PropertyMapping) (front back : List Step) :
    p.run (front ++ back) = (p.run front).bind fun q => q.run back :=
  List.foldlM_append

/-- A strategy is accepted by a copy only. -/
theorem withStrategy_eq_ok_iff {s : Strategy} :
    p.withStrategy s = .ok q ↔
      p.strategy = none ∧ p.shape = .scalar ∧ q = { p with strategy := some s } := by
  unfold withStrategy
  cases hp : p.strategy with
  | some old => simp
  | none => by_cases hs : p.shape = .scalar <;> simp [hs, eq_comm]

/-- A shape is accepted as long as there is no strategy. -/
theorem withShape_eq_ok_iff {s : Shape} :
    p.withShape s = .ok q ↔ p.strategy = none ∧ q = { p with shape := s } := by
  unfold withShape
  cases hp : p.strategy <;> simp [eq_comm]

/-- **The steps that are refused**, and with which conflict. -/
inductive Refuses (p : PropertyMapping) : Step → StrategyConflict → Prop
  /-- A second strategy. -/
  | second {old s : Strategy} (h : p.strategy = some old) :
      Refuses p (.strategy s) ⟨old.kind, s.kind⟩
  /-- A strategy beside a container. -/
  | beside {s : Strategy} (h : p.strategy = none) (hshape : p.shape ≠ .scalar) :
      Refuses p (.strategy s) ⟨"shape", s.kind⟩
  /-- A shape after a strategy. -/
  | late {old : Strategy} {s : Shape} (h : p.strategy = some old) :
      Refuses p (.shape s) ⟨old.kind, "shape"⟩

/-- **Those steps are refused and no others**, whatever was done before. -/
theorem take_eq_error_iff {c : Step} {e : StrategyConflict} :
    p.take c = .error e ↔ p.Refuses c e := by
  constructor
  · intro h
    cases c with
    | strategy s =>
        rw [take, withStrategy] at h
        cases hold : p.strategy with
        | some old =>
            rw [hold] at h
            obtain rfl := Except.error.inj h
            exact .second hold
        | none =>
            rw [hold] at h
            by_cases hshape : p.shape = .scalar
            · simp [hshape] at h
            · obtain rfl : ⟨"shape", s.kind⟩ = e := by simpa [hshape] using h
              exact .beside hold hshape
    | shape s =>
        rw [take, withShape] at h
        cases hold : p.strategy with
        | some old =>
            rw [hold] at h
            obtain rfl := Except.error.inj h
            exact .late hold
        | none => rw [hold] at h; cases h
    | ignoreNull b => cases h
    | maxRecursionDepth d => cases h
    | hopPolicy i policy => cases h
  · intro h
    cases h with
    | second h => rw [take, withStrategy, h]
    | beside h hshape => rw [take, withStrategy, h]; exact if_neg hshape
    | late h => rw [take, withShape, h]

/-- **What an accepted step does** to each part of a mapping. -/
structure Step.Turns (c : Step) (p q : PropertyMapping) : Prop where
  exclusive : p.strategy = none ∨ p.shape = .scalar → q.strategy = none ∨ q.shape = .scalar
  strategy : q.strategy.toList = p.strategy.toList ++ c.strategy?.toList
  shape : q.shape = c.shape?.getD p.shape
  source : q.source = p.source.mapIdx fun i h => h.under (c.policyAt? i).toList
  destination : q.destination = p.destination
  ignoreNull : q.ignoreNull = c.ignoreNull?.getD p.ignoreNull
  maxRecursionDepth : q.maxRecursionDepth = c.depth?.getD p.maxRecursionDepth

/-- A policy for one link leaves the others alone. -/
theorem modify_eq_mapIdx (source : List Hop) (i : Nat) (policy : NullPolicy) :
    (source.modify i fun h => if h.nullable then { h with onNull := some policy } else h) =
      source.mapIdx fun j h => h.under ((Step.hopPolicy i policy).policyAt? j).toList := by
  refine List.ext_getElem? fun j => ?_
  rw [List.getElem?_modify, List.getElem?_mapIdx]
  congr 1
  funext h
  by_cases hij : i = j
  · simp [hij, Step.policyAt?, Hop.under]
  · simp [hij, Step.policyAt?, Hop.under_nil]

theorem turns_of_take {c : Step} (h : p.take c = .ok q) : c.Turns p q := by
  have hsource := (Hop.mapIdx_under_nil p.source).symm
  cases c with
  | strategy s =>
      obtain ⟨hnone, hscalar, rfl⟩ := withStrategy_eq_ok_iff.mp h
      refine ⟨fun _ => .inr hscalar, ?_, rfl, hsource, rfl, rfl, rfl⟩
      rw [hnone]
      rfl
  | shape s =>
      obtain ⟨hnone, rfl⟩ := withShape_eq_ok_iff.mp h
      exact ⟨fun _ => .inl hnone, (List.append_nil _).symm, rfl, hsource, rfl, rfl, rfl⟩
  | ignoreNull b =>
      obtain rfl := Except.ok.inj h
      exact ⟨id, (List.append_nil _).symm, rfl, hsource, rfl, rfl, rfl⟩
  | maxRecursionDepth d =>
      obtain rfl := Except.ok.inj h
      exact ⟨id, (List.append_nil _).symm, rfl, hsource, rfl, rfl, rfl⟩
  | hopPolicy i policy =>
      obtain rfl := Except.ok.inj h
      have hpolicy := modify_eq_mapIdx p.source i policy
      exact ⟨id, (List.append_nil _).symm, rfl, hpolicy, rfl, rfl, rfl⟩

/-! ## 3. What steps come to -/

/-- **A mapping and the steps that made it** from a copy along a chain. -/
structure Made (chain : List Hop) (goal : PropertyEnd) (steps : List Step)
    (p : PropertyMapping) : Prop where
  /-- A strategy never stands beside a container. -/
  exclusive : p.strategy = none ∨ p.shape = .scalar
  /-- The strategy is the only one that was ever accepted. -/
  strategy : steps.filterMap Step.strategy? = p.strategy.toList
  shape : p.shape = (steps.filterMap Step.shape?).getLast?.getD .scalar
  /-- The links are those of the chain, each under the policies for its position. -/
  source : p.source = chain.mapIdx fun i h => h.under (steps.filterMap (Step.policyAt? i))
  destination : p.destination = goal
  ignoreNull : p.ignoreNull = (steps.filterMap Step.ignoreNull?).getLast?.getD false
  maxRecursionDepth : p.maxRecursionDepth = (steps.filterMap Step.depth?).getLast?.getD none

namespace Made

variable {steps : List Step} {c : Step}

theorem start (chain : List Hop) (goal : PropertyEnd) :
    Made chain goal [] ⟨chain, goal, none, .scalar, false, none⟩ where
  exclusive := .inl rfl
  strategy := rfl
  shape := rfl
  source := (Hop.mapIdx_under_nil chain).symm
  destination := rfl
  ignoreNull := rfl
  maxRecursionDepth := rfl

/-- The steps determine the mapping. -/
theorem unique (hp : Made chain goal steps p) (hq : Made chain goal steps q) :
    p = q := by
  have hstrategy : p.strategy = q.strategy := by
    rw [← Option.head?_toList (o := p.strategy), ← hp.strategy, hq.strategy, Option.head?_toList]
  have hsource := hp.source.trans hq.source.symm
  have hdestination := hp.destination.trans hq.destination.symm
  have hshape := hp.shape.trans hq.shape.symm
  have hignore := hp.ignoreNull.trans hq.ignoreNull.symm
  have hdepth := hp.maxRecursionDepth.trans hq.maxRecursionDepth.symm
  cases p
  cases q
  simp_all

/-- What the steps say together with one more. -/
theorem filterMap_concat {α : Type} (f : Step → Option α) (steps : List Step) (c : Step) :
    (steps ++ [c]).filterMap f = steps.filterMap f ++ (f c).toList := by
  rw [List.filterMap_append]
  cases hc : f c <;> simp [hc]

theorem getLast?_filterMap_concat {α : Type} (f : Step → Option α) (steps : List Step) (c : Step)
    (a : α) : ((steps ++ [c]).filterMap f).getLast?.getD a =
      (f c).getD ((steps.filterMap f).getLast?.getD a) := by
  rw [filterMap_concat, List.getLast?_append]
  cases f c <;> rfl

/-- **An accepted step** comes to what it says. -/
theorem take (h : Made chain goal steps p) (hc : p.take c = .ok q) :
    Made chain goal (steps ++ [c]) q := by
  have hturns := turns_of_take hc
  refine ⟨hturns.exclusive h.exclusive, ?_, ?_, ?_, hturns.destination.trans h.destination, ?_, ?_⟩
  · rw [filterMap_concat, h.strategy, hturns.strategy]
  · rw [getLast?_filterMap_concat, ← h.shape, hturns.shape]
  · rw [hturns.source, h.source, List.mapIdx_mapIdx]
    refine congrArg (chain.mapIdx ·) (funext fun i => funext fun hop => ?_)
    rw [Function.comp_apply, Hop.under_under, filterMap_concat]
  · rw [getLast?_filterMap_concat, ← h.ignoreNull, hturns.ignoreNull]
  · rw [getLast?_filterMap_concat, ← h.maxRecursionDepth, hturns.maxRecursionDepth]

/-- **Accepted steps** come to what they say. -/
theorem run {more : List Step} (h : Made chain goal steps p) (hrun : p.run more = .ok q) :
    Made chain goal (steps ++ more) q := by
  induction more generalizing steps p with
  | nil =>
      obtain rfl := Except.ok.inj hrun
      rwa [List.append_nil]
  | cons c more ih =>
      rw [run_cons] at hrun
      cases hc : p.take c with
      | error e => rw [hc] at hrun; cases hrun
      | ok next =>
          rw [hc] at hrun
          rw [List.append_cons]
          exact ih (h.take hc) hrun

/-- Policies leave the links as they are otherwise. -/
theorem links (h : Made chain goal steps p) :
    p.source.map PropertyBuilder.bare = chain.map PropertyBuilder.bare := by
  rw [h.source]
  refine List.ext_getElem? fun i => ?_
  simp [Option.map_map, Function.comp_def]

/-- No step gives a policy to a link whose value is always there. -/
theorem unpoliced (h : Made chain goal steps p)
    (hgiven : ∀ hop ∈ chain, hop.nullable = false → hop.onNull = none) :
    ∀ hop ∈ p.source, hop.nullable = false → hop.onNull = none := by
  rw [h.source]
  intro hop hmem hnull
  obtain ⟨i, hi, rfl⟩ := List.mem_mapIdx.mp hmem
  rw [Hop.nullable_under] at hnull
  rw [Hop.under_of_not_nullable hnull]
  exact hgiven _ (List.getElem_mem hi) hnull

end Made

/-- **What holds of a mapping made in steps**, whichever they were. -/
structure Settled (chain : List Hop) (goal : PropertyEnd) (steps : List Step)
    (p : PropertyMapping) : Prop extends Made chain goal steps p where
  /-- The links read the same properties as ever. -/
  links : p.source.map PropertyBuilder.bare = chain.map PropertyBuilder.bare
  /-- A link whose value is always there has no policy, unless it came with one, which no link that
  reads a property does. -/
  unpoliced : (∀ hop ∈ chain, hop.nullable = false → hop.onNull = none) →
    ∀ hop ∈ p.source, hop.nullable = false → hop.onNull = none
  /-- The next step is refused only for a conflict. -/
  refused : ∀ c e, p.take c = .error e ↔ p.Refuses c e

theorem start?_of_ne_nil (hchain : chain ≠ []) (goal : PropertyEnd) :
    start? chain goal = some ⟨chain, goal, none, .scalar, false, none⟩ :=
  if_neg fun hempty => hchain (List.isEmpty_iff.mp hempty)

/-- **Accepted steps settle a mapping**: along a chain that has a link, the mapping can be started,
and whatever steps are accepted from then on, in any order and number, there is at most one strategy
among them and none beside a container, and links and destination are the ones at the start. -/
theorem settled_of_run (hchain : chain ≠ []) (goal : PropertyEnd) :
    ∃ start, start? chain goal = some start ∧
      ∀ steps p, start.run steps = .ok p → Settled chain goal steps p := by
  refine ⟨_, start?_of_ne_nil hchain goal, fun steps p hrun => ?_⟩
  have hmade : Made chain goal steps p := (Made.start chain goal).run hrun
  exact ⟨hmade, hmade.links, hmade.unpoliced, fun c e => take_eq_error_iff⟩

/-- The way to the city of an address that may be absent. -/
def cityChain : List Hop :=
  [⟨"address", .object "app::Address" true, false, ⟨true, true⟩, []⟩,
    ⟨"city", .scalar "String" false false, false, ⟨true, true⟩, []⟩].map Hop.ofProperty

/-- A text with the name of the city. -/
def cityEnd : PropertyEnd := ⟨"town", .scalar "String" false false, false⟩

/-- Steps that come back on themselves: a container is taken back before there is a strategy, and
policies go to the address twice, to the city, and past the end of the chain. -/
def citySteps : List Step :=
  [.hopPolicy 0 .propagate, .shape (.tuple []), .ignoreNull true, .shape .scalar,
    .strategy (.delegate ⟨⟨"app::City", "app::Town"⟩, none⟩), .hopPolicy 1 .guard,
    .hopPolicy 7 .guard, .hopPolicy 0 .guard, .maxRecursionDepth (some 3)]

/-- Only the address gets a policy, the last one; a shape is refused from then on. -/
theorem settled_of_city : cityChain ≠ [] ∧ ∃ start p, start? cityChain cityEnd = some start ∧
    start.run citySteps = .ok p ∧ Settled cityChain cityEnd citySteps p ∧
    p.source.map Hop.onNull = [some .guard, none] ∧
    p.take (.shape .scalar) = .error ⟨"mapper", "shape"⟩ := by
  have hchain : cityChain ≠ [] := List.cons_ne_nil _ _
  obtain ⟨start, hstart, hsettled⟩ := settled_of_run hchain cityEnd
  obtain rfl : _ = start := Option.some.inj hstart
  exact ⟨hchain, _, _, rfl, rfl, hsettled _ _ rfl, by decide, by decide⟩

/-! ## 4. Construction in steps -/

/-- Steps without a strategy and without a shape are accepted at any time. -/
theorem exists_run_of_free {steps : List Step}
    (hfree : ∀ c ∈ steps, c.strategy? = none ∧ c.shape? = none) (p : PropertyMapping) :
    ∃ q, p.run steps = .ok q := by
  induction steps generalizing p with
  | nil => exact ⟨p, rfl⟩
  | cons c steps ih =>
      obtain ⟨⟨hstrategy, hshape⟩, hrest⟩ := List.forall_mem_cons.mp hfree
      cases c with
      | strategy s => cases hstrategy
      | shape s => cases hshape
      | ignoreNull b => exact ih hrest (p.withIgnoreNull b)
      | maxRecursionDepth d => exact ih hrest (p.withMaxRecursionDepth d)
      | hopPolicy i policy => exact ih hrest (p.withHopPolicy i policy)

/-- The steps that give links their policies, from a position on. -/
def policySteps : Nat → List Hop → List Step
  | _, [] => []
  | i, hop :: hops => (hop.onNull.map (Step.hopPolicy i)).toList ++ policySteps (i + 1) hops

theorem exists_of_mem_policySteps {c : Step} {i : Nat} {hops : List Hop}
    (hc : c ∈ policySteps i hops) : ∃ j policy, i ≤ j ∧ c = .hopPolicy j policy := by
  induction hops generalizing i with
  | nil => exact absurd hc List.not_mem_nil
  | cons hop hops ih =>
      rcases List.mem_append.mp hc with hc | hc
      · rw [Option.mem_toList, Option.map_eq_some_iff] at hc
        obtain ⟨policy, -, rfl⟩ := hc
        exact ⟨i, policy, Nat.le_refl i, rfl⟩
      · obtain ⟨j, policy, hj, rfl⟩ := ih hc
        exact ⟨j, policy, Nat.le_of_succ_le hj, rfl⟩

theorem filterMap_policySteps {α : Type} {f : Step → Option α}
    (hf : ∀ j policy, f (.hopPolicy j policy) = none) (i : Nat) (hops : List Hop) :
    (policySteps i hops).filterMap f = [] := by
  refine List.filterMap_eq_nil_iff.mpr fun c hc => ?_
  obtain ⟨j, policy, -, rfl⟩ := exists_of_mem_policySteps hc
  exact hf j policy

/-- Each link is given its own policy and no other. -/
theorem policies_policySteps (i j : Nat) (hops : List Hop) :
    (policySteps i hops).filterMap (Step.policyAt? (i + j)) =
      (hops[j]?.bind Hop.onNull).toList := by
  induction hops generalizing i j with
  | nil => rfl
  | cons hop hops ih =>
      rw [policySteps, List.filterMap_append]
      cases j with
      | zero =>
          have hlater : (policySteps (i + 1) hops).filterMap (Step.policyAt? (i + 0)) = [] := by
            refine List.filterMap_eq_nil_iff.mpr fun c hc => ?_
            obtain ⟨j, policy, hj, rfl⟩ := exists_of_mem_policySteps hc
            exact if_neg (by omega)
          rw [hlater, List.append_nil]
          cases hpolicy : hop.onNull <;> simp [hpolicy, Step.policyAt?]
      | succ j =>
          have hfirst : (hop.onNull.map (Step.hopPolicy i)).toList.filterMap
              (Step.policyAt? (i + (j + 1))) = [] := by
            cases hop.onNull <;> simp [Step.policyAt?]
          have hshift : i + (j + 1) = i + 1 + j := by omega
          rw [hfirst, List.nil_append, hshift]
          exact ih (i + 1) j

/-- Links get the policies that they have in the end, if only values that may be absent have one. -/
theorem mapIdx_under_policySteps {chain hops : List Hop}
    (hbare : hops.map PropertyBuilder.bare = chain.map PropertyBuilder.bare)
    (hchain : ∀ hop ∈ chain, hop.onNull = none)
    (hhops : ∀ hop ∈ hops, hop.nullable = false → hop.onNull = none) :
    (chain.mapIdx fun i h => h.under ((policySteps 0 hops).filterMap (Step.policyAt? i))) =
      hops := by
  refine List.ext_getElem? fun i => ?_
  have hpolicies := policies_policySteps 0 i hops
  rw [Nat.zero_add] at hpolicies
  have hlinks := congrArg (·[i]?) hbare
  simp only [List.getElem?_map] at hlinks
  rw [List.getElem?_mapIdx, hpolicies]
  cases hhop : hops[i]? with
  | none =>
      rw [hhop] at hlinks
      rw [Option.map_eq_none_iff.mp hlinks.symm]
      rfl
  | some hop =>
      rw [hhop] at hlinks
      obtain ⟨h, hh, heq⟩ := Option.map_eq_some_iff.mp hlinks.symm
      have hnone := hchain h (List.mem_of_getElem? hh)
      have hfit := hhops hop (List.mem_of_getElem? hhop)
      rw [hh, Option.map_some, Option.bind_some, Hop.under_of_bare heq hnone hfit]

end PropertyMapping

namespace Plan

open PropertyMapping

variable {chain hops : List Hop}

/-- The steps before the policies: the settings, and the plan unless it copies. -/
def openingSteps (d : PropertyDirectives) (plan : Plan) : List Step :=
  [.ignoreNull d.ignoreNull, .maxRecursionDepth d.maxRecursionDepth] ++ match plan with
    | .copy => []
    | .strategy s => [.strategy s]
    | .shape s => [.shape s]

/-- The steps that a mapping along links with policies is made in. -/
def steps (d : PropertyDirectives) (hops : List Hop) (plan : Plan) : List Step :=
  plan.openingSteps d ++ policySteps 0 hops

theorem filterMap_steps {α : Type} {f : Step → Option α}
    (hf : ∀ j policy, f (.hopPolicy j policy) = none) (plan : Plan) (d : PropertyDirectives)
    (hops : List Hop) : (plan.steps d hops).filterMap f = (plan.openingSteps d).filterMap f := by
  rw [steps, List.filterMap_append, filterMap_policySteps hf, List.append_nil]

/-- All of these steps are accepted. -/
theorem exists_run_steps (plan : Plan) (chain : List Hop) (e : PropertyEnd)
    (d : PropertyDirectives) (hops : List Hop) :
    ∃ p, run ⟨chain, e, none, .scalar, false, none⟩ (plan.steps d hops) = .ok p := by
  have hopening : run ⟨chain, e, none, .scalar, false, none⟩ (plan.openingSteps d) =
      .ok (plan.toMapping chain e d) := by
    cases plan <;> rfl
  have hfree : ∀ c ∈ policySteps 0 hops, c.strategy? = none ∧ c.shape? = none := fun c hc => by
    obtain ⟨_, _, -, rfl⟩ := exists_of_mem_policySteps hc
    exact ⟨rfl, rfl⟩
  obtain ⟨p, hp⟩ := exists_run_of_free hfree (plan.toMapping chain e d)
  refine ⟨p, ?_⟩
  rw [steps, run_append, hopening]
  exact hp

/-- The mapping of a plan is what the settings, the plan and the policies say. -/
theorem made_toMapping (hbare : hops.map PropertyBuilder.bare = chain.map PropertyBuilder.bare)
    (hchain : ∀ hop ∈ chain, hop.onNull = none)
    (hhops : ∀ hop ∈ hops, hop.nullable = false → hop.onNull = none)
    (plan : Plan) (e : PropertyEnd) (d : PropertyDirectives) :
    Made chain e (plan.steps d hops) (plan.toMapping hops e d) := by
  have hlinks : hops = chain.mapIdx fun i h =>
      h.under ((plan.steps d hops).filterMap (Step.policyAt? i)) := by
    have hopening (i : Nat) : (plan.openingSteps d).filterMap (Step.policyAt? i) = [] := by
      cases plan <;> rfl
    simp only [steps, List.filterMap_append, hopening, List.nil_append]
    exact (mapIdx_under_policySteps hbare hchain hhops).symm
  have hstrategy := plan.filterMap_steps (f := Step.strategy?) (fun _ _ => rfl) d hops
  have hshape := plan.filterMap_steps (f := Step.shape?) (fun _ _ => rfl) d hops
  have hignore := plan.filterMap_steps (f := Step.ignoreNull?) (fun _ _ => rfl) d hops
  have hdepth := plan.filterMap_steps (f := Step.depth?) (fun _ _ => rfl) d hops
  refine ⟨?_, ?_, ?_, hlinks, rfl, ?_, ?_⟩
  · cases plan with
    | copy => exact .inl rfl
    | strategy s => exact .inr rfl
    | shape s => exact .inl rfl
  · rw [hstrategy]
    cases plan <;> rfl
  · rw [hshape]
    cases plan <;> rfl
  · rw [hignore]
    cases plan <;> rfl
  · rw [hdepth]
    cases plan <;> rfl

/-- **What a plan comes to** is made in steps. -/
theorem run_steps (hbare : hops.map PropertyBuilder.bare = chain.map PropertyBuilder.bare)
    (hchain : ∀ hop ∈ chain, hop.onNull = none)
    (hhops : ∀ hop ∈ hops, hop.nullable = false → hop.onNull = none)
    (plan : Plan) (e : PropertyEnd) (d : PropertyDirectives) :
    run ⟨chain, e, none, .scalar, false, none⟩ (plan.steps d hops) =
      .ok (plan.toMapping hops e d) := by
  obtain ⟨p, hrun⟩ := plan.exists_run_steps chain e d hops
  -- the steps determine the mapping, so it is enough that the plan comes to what they say
  have hmade : Made chain e (plan.steps d hops) p := (Made.start chain e).run hrun
  rw [hrun, hmade.unique (plan.made_toMapping hbare hchain hhops e d)]

end Plan

/-- **A property that is built is made in steps** from the properties that are read. -/
theorem Builder.exists_steps_of_property (b : Builder) (h : Helpers) (m : PropertyMatch) :
    Gives (fun p => ∃ start steps,
        PropertyMapping.start? (m.source.map Hop.ofProperty) (PropertyEnd.ofProperty m.destination)
          = some start ∧ start.run steps = .ok p)
      (b.property h m).1 := by
  intro p hp
  obtain ⟨last, plan, hs, hlast, -, hhops, rfl⟩ := b.property_planned h m p hp
  obtain ⟨hbare, hsafe⟩ := PropertyBuilder.hopPolicies_gives hs [] _ hs hhops
  have hne : m.source.map Hop.ofProperty ≠ [] := fun hnil => by
    rw [hnil] at hlast
    cases hlast
  have hchain : ∀ hop ∈ m.source.map Hop.ofProperty, hop.onNull = none :=
    fun _ => Hop.onNull_of_mem_map_ofProperty
  have hfit : ∀ hop ∈ hs, hop.nullable = false → hop.onNull = none := fun hop hmem hnull => by
    obtain ⟨front, back, hsplit⟩ := List.append_of_mem hmem
    refine Option.not_isSome_iff_eq_none.mp fun hsome => ?_
    exact Bool.false_ne_true (hnull.symm.trans ((hsafe front hop back hsplit).isSome_iff.mp hsome).1)
  exact ⟨_, _, PropertyMapping.start?_of_ne_nil hne _, plan.run_steps hbare hchain hfit _ _⟩

namespace Mapping

variable {c : BuildContext} {id : MappingId} {m n : Mapping}

/-- **Building a mapping adds only properties that are made in steps**, each along a chain of
properties that are read; so what holds of a mapping made in steps holds of all of them. -/
theorem exists_steps_of_build (h : m.build c id = .ok n) :
    ∃ ps, n.properties = m.properties ++ ps ∧ ∀ p ∈ ps, ∃ (reads : List Property)
      (goal : Property) (start : PropertyMapping) (steps : List PropertyMapping.Step),
        PropertyMapping.start? (reads.map Hop.ofProperty) (PropertyEnd.ofProperty goal)
          = some start ∧ start.run steps = .ok p := by
  obtain ⟨ps, hps, hpairs⟩ := exists_properties_of_build h
  refine ⟨ps, hps, fun p hp => ?_⟩
  obtain ⟨k, pair, -, hprop⟩ := hpairs p hp
  exact ⟨_, _, Builder.exists_steps_of_property _ k pair p hprop⟩

end Mapping

end TypeMapper
