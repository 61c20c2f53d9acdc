import TypeMapper.Mapping.Arena
/-!
# Resolution of delegates

A delegate is bound to the mapping of its key once that mapping has all its own delegates bound, or
at once if the mapping delegates to itself. Scans over the arena go on until one binds nothing;
what depends on itself in a circle of several mappings stays unbound.

* `Arena.scan`: one scan; it looks at the state at its start only.
* `Arena.bindAll`: scans until nothing changes.
* `Arena.spreadAsync`: a routine that calls an asynchronous one becomes asynchronous.
* `Arena.resolve`: both, with a `FixpointReport`.
-/

namespace TypeMapper

/-- What binding came to: how many scans, how many bindings and how many calls without a target. -/
structure FixpointReport where
  scans : Nat
  bound : Nat
  unresolved : Nat
  deriving DecidableEq, Repr, Inhabited

namespace Arena

/-! ## 1. Binding -/

/-- The number of delegate calls without a target. -/
def pending (a : Arena) : Nat :=
  (a.mappings.flatMap Mapping.delegates).countP fun c => !c.isBound

/-- The mapping of an id has all its delegates bound. -/
def isResolved (a : Arena) (id : MappingId) : Bool :=
  ((a.get? id).map Mapping.isResolved).getD false

/-- The target that a call of the mapping `own` can be bound to in this state. -/
def bindable? (a : Arena) (own : MappingId) (c : DelegateCall) : Option MappingId :=
  if c.isBound then none
  else
    match a.find? c.key with
    | some t => if t = own ∨ a.isResolved t then some t else none
    | none => none

/-- The call after a scan. -/
def bindCall (a : Arena) (own : MappingId) (c : DelegateCall) : DelegateCall :=
  match a.bindable? own c with
  | some t => { c with target := some t }
  | none => c

/-- The number of calls of a mapping that a scan binds. -/
def bindings (a : Arena) (own : MappingId) (m : Mapping) : Nat :=
  m.delegates.countP fun c => (a.bindable? own c).isSome

/-- The number of calls that a scan binds. -/
def scanCount (a : Arena) : Nat := a.entries.foldr (fun p n => a.bindings p.1 p.2 + n) 0

/-- The arena after one scan. -/
def scan (a : Arena) : Arena := a.transform fun id m => m.mapDelegates (a.bindCall id)

/-- Scan until a scan binds nothing, at most `fuel` times; with the scans and the bindings. -/
def bindAll : Nat → Arena → Arena × Nat × Nat
  | 0, a => (a, 0, 0)
  | fuel + 1, a =>
    if a.scanCount = 0 then (a, 1, 0)
    else
      let (b, scans, bound) := bindAll fuel a.scan
      (b, scans + 1, bound + a.scanCount)

/-! ## 2. Asynchronous routines -/

/-- The mapping has to become asynchronous. -/
def mustFlip (a : Arena) (m : Mapping) : Bool := !m.isAsync && m.targets.any a.isAsync

/-- The arena after one round: callers of asynchronous routines are asynchronous. -/
def asyncRound (a : Arena) : Arena :=
  a.transform fun _ m => if a.mustFlip m then { m with isAsync := true } else m

/-- Rounds until one changes nothing, at most `fuel`. -/
def asyncRounds : Nat → Arena → Arena
  | 0, a => a
  | fuel + 1, a => if a.mappings.any a.mustFlip then asyncRounds fuel a.asyncRound else a

/-- Make every caller of an asynchronous routine asynchronous; each round but the last flips one. -/
def spreadAsync (a : Arena) : Arena := asyncRounds (a.size + 1) a

/-! ## 3. Both -/

/-- Bind what can be bound and spread what is asynchronous. -/
def resolve (a : Arena) : Arena × FixpointReport :=
  let (b, scans, bound) := bindAll (a.pending + 1) a
  (b.spreadAsync, ⟨scans, bound, b.pending⟩)

end Arena

end TypeMapper
