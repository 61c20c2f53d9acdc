import TypeMapper.Construction
/-!
# What helpers need

The helpers of a mapping only ever grow while its properties are built. A strategy that was built is
supplied from then on: its resolver has an instance, the arguments of its method are parameters, and
a delegate is bound at once only if it is one of the mapping to itself.

* `Helpers.Closed`: the INVARIANT: the arguments of every resolver instance are parameters.
* `Helpers.Grow`: what one step of the construction may do to the helpers.
* `Strategy.Supplied`: what a strategy needs is there; `Strategy.Supplied.grow`: and stays there.
* `Helpers.grow_resolver`, `grow_addParameters`: the two steps that need more.
-/

namespace TypeMapper

namespace Helpers

variable {h k l : Helpers} {p : EntryParameter} {ps : List EntryParameter} {r : Resolver}

/-! ## 1. Growth -/

/-- **The invariant of helpers**: what the constructors of resolvers take are parameters. -/
def Closed (h : Helpers) : Prop := ∀ i ∈ h.resolvers, ∀ p ∈ i.arguments, p.isIn h.parameters = true

theorem closed_none : none.Closed := fun _ hi => absurd hi List.not_mem_nil

/-- More helpers: nothing is lost, and the invariant is kept. -/
structure Grow (h k : Helpers) : Prop where
  resolvers : h.resolvers ⊆ k.resolvers
  parameters : h.parameters ⊆ k.parameters
  closed : h.Closed → k.Closed

theorem Grow.refl (h : Helpers) : Grow h h := ⟨fun _ => id, fun _ => id, id⟩

theorem Grow.trans (hk : Grow h k) (kl : Grow k l) : Grow h l :=
  ⟨fun _ hi => kl.resolvers (hk.resolvers hi), fun _ hp => kl.parameters (hk.parameters hp),
    kl.closed ∘ hk.closed⟩

/-! ## 2. More parameters -/

theorem addParameter_resolvers (h : Helpers) (p : EntryParameter) :
    (h.addParameter p).resolvers = h.resolvers := by
  unfold addParameter
  split <;> rfl

theorem subset_addParameter (h : Helpers) (p : EntryParameter) :
    h.parameters ⊆ (h.addParameter p).parameters := by
  unfold addParameter
  split
  · exact fun _ => id
  · exact List.subset_append_left h.parameters [p]

theorem isIn_addParameter (h : Helpers) (p : EntryParameter) :
    p.isIn (h.addParameter p).parameters = true := by
  unfold addParameter
  split
  · assumption
  · exact EntryParameter.isIn_of_mem (List.mem_append_right _ List.mem_cons_self)

theorem grow_addParameter (h : Helpers) (p : EntryParameter) : Grow h (h.addParameter p) where
  resolvers := by rw [addParameter_resolvers]; exact fun _ => id
  parameters := subset_addParameter h p
  closed hc i hi q hq := by
    rw [addParameter_resolvers] at hi
    exact EntryParameter.isIn_mono (subset_addParameter h p) (hc i hi q hq)

/-- **More parameters**: afterwards they are all there. -/
theorem grow_addParameters (h : Helpers) (ps : List EntryParameter) :
    Grow h (h.addParameters ps) ∧ ∀ p ∈ ps, p.isIn (h.addParameters ps).parameters = true := by
  induction ps generalizing h with
  | nil => exact ⟨Grow.refl h, fun p hp => absurd hp List.not_mem_nil⟩
  | cons q ps ih =>
      obtain ⟨hgrow, hin⟩ := ih (h.addParameter q)
      refine ⟨(grow_addParameter h q).trans hgrow, fun p hp => ?_⟩
      rcases List.mem_cons.mp hp with rfl | hp
      · exact EntryParameter.isIn_mono hgrow.parameters (isIn_addParameter h p)
      · exact hin p hp

/-! ## 3. More resolvers -/

/-- The helpers have the instance that a call of a resolver goes through. -/
def HasInstance (h : Helpers) (c : ResolverCall) : Prop :=
  ∃ i ∈ h.resolvers, i.ident = c.instanceName ∧ i.path = c.path

/-- **A call of a resolver**: afterwards it has its instance. -/
theorem grow_resolver (h : Helpers) (r : Resolver) :
    Grow h (h.resolver r).2 ∧ (h.resolver r).2.HasInstance (h.resolver r).1 := by
  unfold resolver
  cases hi : h.instance? r with
  | some i =>
      have hp := List.find?_some hi
      rw [Bool.and_eq_true, beq_iff_eq] at hp
      exact ⟨Grow.refl h, i, List.mem_of_find?_eq_some hi, rfl, hp.1⟩
  | none =>
      obtain ⟨hgrow, hin⟩ := h.grow_addParameters (h.newInstance r).arguments
      refine ⟨⟨?_, hgrow.parameters, fun hc i hi p hp => ?_⟩,
        h.newInstance r, List.mem_append_right _ List.mem_cons_self, rfl, rfl⟩
      · exact fun i hi => List.mem_append_left _ (hgrow.resolvers hi)
      · rcases List.mem_append.mp hi with hi | hi
        · exact hgrow.closed hc i hi p hp
        · rw [List.mem_singleton.mp hi] at hp
          exact hin p hp

end Helpers

/-! ## 4. Supplied strategies -/

/-- What a strategy of a mapping needs is there; a delegate needs nothing, but is bound only if it
is one of the mapping to itself. -/
def Strategy.Supplied (b : Builder) (h : Helpers) : Strategy → Prop
  | .delegate c => c.isBound = true → c = ⟨b.key, some b.own⟩
  | .method c => ∀ p ∈ c.arguments, (EntryParameter.ofLocal p.name p.ty).isIn h.parameters = true
  | .resolver c => h.HasInstance c

variable {b : Builder} {h k : Helpers} {s : Strategy}

/-- What a strategy needs stays there. -/
theorem Strategy.Supplied.grow (hs : s.Supplied b h) (hk : Helpers.Grow h k) : s.Supplied b k := by
  cases s with
  | delegate c => exact hs
  | method c => exact fun p hp => EntryParameter.isIn_mono hk.parameters (hs p hp)
  | resolver c =>
      obtain ⟨i, hi, hc⟩ := hs
      exact ⟨i, hk.resolvers hi, hc⟩

theorem Builder.supplied_delegate (b : Builder) (h : Helpers) (key : MappingKey) :
    (b.delegate key).Supplied b h := by
  intro hb
  show (⟨key, if key = b.key then some b.own else none⟩ : DelegateCall) = _
  by_cases e : key = b.key
  · rw [if_pos e, e]
  · simp [DelegateCall.isBound, e] at hb

end TypeMapper
