import TypeMapper.Proofs.Artifact
import TypeMapper.Proofs.Batch.Nullability
import TypeMapper.Proofs.Routine.Shown
/-!
# Where the parameters of helpers come from

A routine hands parameters on to the routines that it calls, and these hand them on in turn, until a
helper takes one. All lists of parameters on the way go by the same names and types, though each may
have its own names for the code. So it does not matter along which calls a parameter is handed on.

* `Arena.Chain`: a chain of delegate calls.
* `Arena.supplier?`: the parameter at the start of a chain that is handed on to its end.
* `Emitter.PassesOn`: what a routine hands on, call by call and along chains.
* `Batch.passesOn_of_isValid`: the routine of an accepted mapping does so.
-/

namespace TypeMapper

theorem Mapping.exists_parameter? {m : Mapping} {key : String × TypeRef}
    (h : ∃ p ∈ m.entryParameters, p.key = key) : ∃ p, m.parameter? key = some p := by
  obtain ⟨p, hp, hkey⟩ := h
  refine Option.ne_none_iff_exists'.mp fun hno => ?_
  exact List.find?_eq_none.mp hno p hp (beq_iff_eq.mpr hkey)

/-! ## 1. Chains -/

namespace Arena

/-- A chain of delegate calls from one mapping to another, with the target of each call. -/
inductive Chain (a : Arena) : MappingId → List MappingId → MappingId → Prop
  | nil (id : MappingId) : Chain a id [] id
  | cons {id t u : MappingId} {ts : List MappingId} (step : a.Delegates id t)
      (rest : Chain a t ts u) : Chain a id (t :: ts) u

theorem Chain.reaches {a : Arena} {id u : MappingId} {ts : List MappingId} (h : a.Chain id ts u) :
    a.Reaches id u := by
  induction h with
  | nil => exact .refl
  | cons step _ ih => exact ih.head step

theorem exists_chain {a : Arena} {id u : MappingId} (h : a.Reaches id u) :
    ∃ ts, a.Chain id ts u := by
  induction h using Relation.ReflTransGen.head_induction_on with
  | refl => exact ⟨[], .nil u⟩
  | head step _ ih =>
      obtain ⟨ts, hts⟩ := ih
      exact ⟨_, .cons step hts⟩

/-- The parameter of the routine of `id` that is handed on along a chain, and becomes the parameter
of the last routine of a name and a type: each routine on the way gives for a parameter of the one
it calls its own parameter of the same name and type. -/
def supplier? (a : Arena) : MappingId → List MappingId → String × TypeRef → Option EntryParameter
  | id, [], key => do
    let m ← a.get? id
    m.parameter? key
  | id, t :: ts, key => do
    let q ← a.supplier? t ts key
    let m ← a.get? id
    m.parameter? q.key

end Arena

/-- What a routine hands on to the routines that it calls. -/
structure Emitter.PassesOn (e : Emitter) : Prop where
  /-- Its parameters are distinct by their names and types. -/
  keys : (e.mapping.entryParameters.map EntryParameter.key).Nodup
  /-- They are distinct by the names that they have in the routine. -/
  names : (e.mapping.entryParameters.map EntryParameter.name).Nodup
  /-- The routine takes them in order under these names. -/
  parameters : ∀ r, e.primary = .ok r →
    List.Forall₂ (fun p r => Code.name? p.name = some r.1) e.mapping.entryParameters r.parameters
  /-- The tokens of the routine show its calls, in order: each with the name of the routine, and
  with the arguments in order behind the input. No other routine of another module is called. -/
  written : ∀ r, e.primary = .ok r → r.Shown
  /-- It calls the routine of each target, which is awaited if the target is asynchronous, and gives
  it, position by position, the one of its parameters that has the name and the type of the
  parameter there. -/
  calls : ∀ r, e.primary = .ok r → List.Forall₂ (fun d c => ∃ k,
    d.target = some c.target ∧ e.arena.get? c.target = some k ∧
      e.names.routine c.target = .ok c.routine ∧ (c.own = true ↔ c.target = e.id) ∧
      c.isAsync = k.isAsync ∧
      List.Forall₂ (fun q name => ∃ p ∈ e.mapping.entryParameters, p.localName = q.localName ∧
        p.ty = q.ty ∧ Code.name? p.name = some name) k.entryParameters c.arguments)
    e.mapping.delegates r.calls
  /-- Along all chains to a mapping, a parameter of its helpers comes from one parameter. -/
  chains : ∀ t k, e.arena.Reaches e.id t → e.arena.get? t = some k → ∀ u ∈ k.localParameters,
    ∃ p ∈ e.mapping.entryParameters, p.localName = u.localName ∧ p.ty = u.ty ∧
      ∀ ts, e.arena.Chain e.id ts t → e.arena.supplier? e.id ts u.key = some p

namespace Emitter

variable {a : Arena} {c : Config} {names : RoutineNames} {id t : MappingId} {m k : Mapping}

/-- A mapping that is ready takes what its targets take. -/
theorem Ready.exists_parameter? (hr : (ofArena a c names id m).Ready) (ht : t ∈ m.targets)
    (hk : a.get? t = some k) {q : EntryParameter} (hq : q ∈ k.entryParameters) :
    ∃ p, m.parameter? q.key = some p := by
  obtain ⟨d, hd, hdt⟩ := Arena.mem_targets_iff.mp ht
  obtain ⟨t', k', ht', hk', htakes⟩ := hr.calls d hd
  obtain rfl := Option.some.inj (hdt.symm.trans ht')
  obtain rfl := Option.some.inj (hk.symm.trans hk')
  exact Mapping.exists_parameter? (htakes q hq)

theorem passesOn_ofArena (hkeys : (m.entryParameters.map EntryParameter.key).Nodup)
    (hnames : (m.entryParameters.map EntryParameter.name).Nodup)
    (hslotwise : ∀ p ∈ m.properties, p.shape ≠ .scalar → p.strategy = none)
    (hchains : ∀ t k, a.Reaches id t → a.get? t = some k → ∀ u ∈ k.localParameters,
      ∃ p, m.parameter? u.key = some p ∧ ∀ ts, a.Chain id ts t → a.supplier? id ts u.key = some p) :
    (ofArena a c names id m).PassesOn where
  keys := hkeys
  names := hnames
  parameters r hr := (primary_calls hslotwise r hr).1
  written := primary_shown
  calls r hr := (primary_calls hslotwise r hr).2.imp fun d call hmakes => by
    obtain ⟨k, hk, hasync, hargs⟩ := hmakes.arguments
    have hown : call.own = true ↔ call.target = id := hmakes.own ▸ decide_eq_true_iff
    refine ⟨k, hmakes.target, hk, hmakes.routine, hown, hasync, hargs.imp fun q name hname => ?_⟩
    obtain ⟨p, hp, hspelled⟩ := hname
    obtain ⟨hmem, hkey⟩ := Mapping.parameter?_eq_some hp
    exact ⟨p, hmem, congrArg Prod.fst hkey, congrArg Prod.snd hkey, hspelled⟩
  chains t k hreach hk u hu := by
    obtain ⟨p, hp, hsupplier⟩ := hchains t k hreach hk u hu
    obtain ⟨hmem, hkey⟩ := Mapping.parameter?_eq_some hp
    exact ⟨p, hmem, congrArg Prod.fst hkey, congrArg Prod.snd hkey, hsupplier⟩

end Emitter

/-! ## 2. Accepted mappings -/

namespace Batch

variable {s : Schema} {c : Config} {id t : MappingId} {m k : Mapping} {key : String × TypeRef}

/-- An accepted mapping takes the parameters of its helpers. -/
theorem exists_parameter?_of_local (h : (discover s c).arena.get? id = some m)
    (hv : m.isValid = true) {u : EntryParameter} (hu : u ∈ m.localParameters) :
    ∃ p, m.parameter? u.key = some p := by
  obtain ⟨n, l, hpassed⟩ := passed_of_isValid h hv
  have hn : u ∈ n.localParameters := hpassed.localParameters_eq ▸ hu
  have hin := hpassed.isIn_of_local (EntryParameter.isIn_of_mem hn)
  exact Mapping.exists_parameter? (EntryParameter.isIn_iff.mp hin)

/-- **What is handed on along a chain** is the parameter of the same name and type, whatever the
chain is. -/
theorem supplier?_eq {ts : List MappingId} (hchain : (discover s c).arena.Chain id ts t)
    (h : (discover s c).arena.get? id = some m) (hv : m.isValid = true)
    (hk : (discover s c).arena.get? t = some k) (hq : ∃ q, k.parameter? key = some q) :
    (∃ p, m.parameter? key = some p) ∧
      (discover s c).arena.supplier? id ts key = m.parameter? key := by
  induction hchain generalizing m with
  | nil id =>
      obtain rfl := Option.some.inj (h.symm.trans hk)
      refine ⟨hq, ?_⟩
      rw [Arena.supplier?, h]
      rfl
  | @cons id t u ts step _ ih =>
      obtain ⟨n, hn, hnv⟩ := isValid_of_reaches h hv (.single step)
      obtain ⟨⟨q, hq'⟩, hsupplier⟩ := ih hn hnv hk
      obtain ⟨hmem, hkey⟩ := Mapping.parameter?_eq_some hq'
      have htarget := (Arena.delegates_iff_of_get? h).mp step
      refine ⟨hkey ▸ (ready_of_isValid h hv).exists_parameter? htarget hn hmem, ?_⟩
      rw [Arena.supplier?, hsupplier, hq', h]
      exact congrArg m.parameter? hkey

theorem distinct_of_isValid (h : (discover s c).arena.get? id = some m) (hv : m.isValid = true) :
    (m.entryParameters.map EntryParameter.key).Nodup ∧
      (m.entryParameters.map EntryParameter.name).Nodup := by
  obtain ⟨n, l, hpassed⟩ := passed_of_isValid h hv
  rw [hpassed.entryParameters_eq]
  exact (s.resolved c).distinct_entryParameters id

/-- **The routine of an accepted mapping hands on one parameter for each that a target takes**, and
all chains of calls to a mapping hand the same parameters on to its helpers. -/
theorem passesOn_of_isValid (h : (discover s c).arena.get? id = some m) (hv : m.isValid = true) :
    (Emitter.ofArena (discover s c).arena c (RoutineNames.ofArena (discover s c).arena) id
      m).PassesOn := by
  refine Emitter.passesOn_ofArena (distinct_of_isValid h hv).1 (distinct_of_isValid h hv).2
    (fun p hp => (built_of_isValid h hv p hp).slotwise) fun t k hreach hk u hu => ?_
  have hlocal := exists_parameter?_of_local hk (isValid_of_reaches_get? h hv hreach hk) hu
  obtain ⟨ts, hts⟩ := Arena.exists_chain hreach
  obtain ⟨p, hp⟩ := (supplier?_eq hts h hv hk hlocal).1
  exact ⟨p, hp, fun ts hts => (supplier?_eq hts h hv hk hlocal).2.trans hp⟩

/-- An order with two shelves, which share the kind of their prices, and perhaps an order before it.
A price is written by a method that also takes a currency. -/
def shelvesSchema : Schema :=
  Schema.ofLists
    [type "app::Order" [object "left" "app::Left" false, object "right" "app::Right" false,
        object "before" "app::Order" true] (some "view::Order") [],
      type "app::Left" [object "price" "app::Price" false] (some "view::Left") [],
      type "app::Right" [object "price" "app::Price" false] (some "view::Right") [],
      type "app::Price" [⟨"amount", text, false, ⟨true, true⟩, [⟨.useMethod "written", none⟩]⟩]
        (some "view::Price")
        [⟨"written", [⟨"amount", text, false⟩, ⟨"currency", text, false⟩], text, false⟩],
      type "view::Order" [object "left" "view::Left" false, object "right" "view::Right" false,
        object "before" "view::Order" true] none [],
      type "view::Left" [object "price" "view::Price" false] none [],
      type "view::Right" [object "price" "view::Price" false] none [],
      type "view::Price" [⟨"amount", text, false, ⟨true, true⟩, []⟩] none []]
    []
where
  /-- A text. -/
  text : TypeRef := .scalar "String" false false
  /-- A property of an object type. -/
  object (name path : String) (nullable : Bool) : Property :=
    ⟨name, .object path nullable, false, ⟨true, true⟩, []⟩
  /-- A type that may be mapped to another. -/
  type (path : String) (properties : List Property) (view : Option String)
      (methods : List Method) : TypeDecl :=
    ⟨path, none, false, true, properties, view.toList.map fun d => ⟨.mapTo d, none⟩, methods⟩

/-- The arena of these types. -/
def shelvesArena : Arena := (discover shelvesSchema Config.standard).arena

/-- The calls of the routine of an order: one for each shelf, and one of itself for the order before
it, if there is one. -/
def orderCalls : List RoutineCall :=
  [⟨0, "map_left_to_left", false, .field (.binding "source" false) "left" false, ["currency"],
      false⟩,
    ⟨3, "map_right_to_right", false, .field (.binding "source" false) "right" false, ["currency"],
      false⟩,
    ⟨1, "map_order_to_order", true, .binding "before_value" false, ["currency"], false⟩]

/-- An order hands its currency on to both shelves and to the order before it, and along all chains
the same one gets to the prices. -/
theorem passesOn_of_order : ∃ m r,
    shelvesArena.get? 1 = some m ∧ m.isValid = true ∧
    (Emitter.ofArena shelvesArena Config.standard (RoutineNames.ofArena shelvesArena) 1
      m).PassesOn ∧
    (Emitter.ofArena shelvesArena Config.standard (RoutineNames.ofArena shelvesArena) 1
      m).primary = .ok r ∧
    r.calls = orderCalls ∧
    shelvesArena.supplier? 1 [0, 2] ("currency", shelvesSchema.text) =
      some (.ofLocal "currency" shelvesSchema.text) ∧
    shelvesArena.supplier? 1 [1, 3, 2] ("currency", shelvesSchema.text) =
      some (.ofLocal "currency" shelvesSchema.text) := by
  have hreport : (shelvesArena.get? 1).map (fun m => (m.isValid,
      (Emitter.ofArena shelvesArena Config.standard (RoutineNames.ofArena shelvesArena) 1
        m).primary.toOption.map PrimaryRoutine.calls)) =
      some (true, some orderCalls) := by
    decide +kernel
  obtain ⟨m, hm, hfields⟩ := Option.map_eq_some_iff.mp hreport
  rw [Prod.mk.injEq] at hfields
  obtain ⟨hv, hcalls⟩ := hfields
  obtain ⟨r, hr, hcalls⟩ := Option.map_eq_some_iff.mp hcalls
  exact ⟨m, r, hm, hv, passesOn_of_isValid hm hv, eq_ok_of_toOption hr, hcalls, by decide +kernel,
    by decide +kernel⟩

end Batch

end TypeMapper
