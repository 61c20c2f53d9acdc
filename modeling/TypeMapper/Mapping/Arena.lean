import TypeMapper.Mapping.Basic
/-!
# Arenas

An arena holds the mappings of one run, at most one for each pair of types. It has two tables: the
mappings, each with the id that it was given, and the ids by pair of types. Mappings refer to each
other by id, so they may do so in circles.

* `Tables`: the two tables; `Tables.allocate?` and `Tables.transform` are all that writes them.
* `Arena`: tables that nothing else has written; `Arena.mappings`: the mappings in the order of ids.
* `Arena.reachable`: the mappings that one reaches through bound delegates, in depth-first order.
-/

namespace TypeMapper

/-! ## 1. Tables -/

/-- The tables of an arena. -/
structure Tables where
  /-- The mappings in the order of allocation, each with the id that it was given. -/
  entries : List (MappingId × Mapping)
  /-- The ids by pair of types. -/
  byKey : Catalog (MappingKey × MappingId) Prod.fst

namespace Tables

/-- The tables without mappings. -/
def empty : Tables := ⟨[], Catalog.empty⟩

/-- The number of mappings. -/
def size (t : Tables) : Nat := t.entries.length

/-- The mapping of an id, which is its position. -/
def get? (t : Tables) (id : MappingId) : Option Mapping := t.entries[id]?.map Prod.snd

/-- The id that is known for a pair of types. -/
def find? (t : Tables) (key : MappingKey) : Option MappingId := (t.byKey.find? key).map Prod.snd

/-- An id is known for a pair of types. -/
def hasKey (t : Tables) (key : MappingKey) : Bool := t.byKey.contains key

/-- A new mapping behind the others, with the next id; none if the pair has a mapping. -/
def allocate? (t : Tables) (key : MappingKey) (index : Option UInt32) (declaredOn : String) :
    Option (Tables × MappingId) :=
  if t.hasKey key then none
  else
    some (⟨t.entries ++ [(t.size, Mapping.declare key index declaredOn)],
      t.byKey.insert (key, t.size)⟩, t.size)

/-- Change a mapping into one of the same pair. -/
def rekeyed (f : MappingId → Mapping → Mapping) (id : MappingId) (m : Mapping) : Mapping :=
  { f id m with key := m.key }

/-- Change every mapping; its id and its pair of types stay. -/
def transform (f : MappingId → Mapping → Mapping) (t : Tables) : Tables :=
  { t with entries := t.entries.map fun e => (e.1, rekeyed f e.1 e.2) }

/-- The tables that come about by allocations and changes alone. -/
inductive Written : Tables → Prop
  | empty : Written empty
  | allocate {t : Tables} (h : Written t) {key : MappingKey} {index : Option UInt32}
      {declaredOn : String} {p : Tables × MappingId}
      (he : t.allocate? key index declaredOn = some p) : Written p.1
  | transform {t : Tables} (h : Written t) (f : MappingId → Mapping → Mapping) :
      Written (t.transform f)

end Tables

/-! ## 2. Arenas -/

/-- The mappings of one run: tables that are written in no other way. -/
structure Arena where
  tables : Tables
  written : tables.Written

namespace Arena

/-- The arena without mappings. -/
def empty : Arena := ⟨Tables.empty, .empty⟩

instance : Inhabited Arena := ⟨empty⟩

/-- The mappings with their ids. -/
def entries (a : Arena) : List (MappingId × Mapping) := a.tables.entries

/-- The mappings in the order of ids. -/
def mappings (a : Arena) : List Mapping := a.entries.map Prod.snd

/-- The number of mappings. -/
def size (a : Arena) : Nat := a.tables.size

@[simp] theorem length_mappings (a : Arena) : a.mappings.length = a.size := List.length_map _

/-- The mapping of an id. -/
def get? (a : Arena) (id : MappingId) : Option Mapping := a.tables.get? id

/-- The id of the mapping for a pair of types. -/
def find? (a : Arena) (key : MappingKey) : Option MappingId := a.tables.find? key

/-- The mapping of an id is asynchronous. -/
def isAsync (a : Arena) (id : MappingId) : Bool := ((a.get? id).map Mapping.isAsync).getD false

/-- The pairs of types in the order of ids. -/
def keys (a : Arena) : List MappingKey := a.mappings.map Mapping.key

/-- A new mapping behind the others, with its id; none if the pair has a mapping. -/
def allocate? (a : Arena) (key : MappingKey) (index : Option UInt32) (declaredOn : String) :
    Option (Arena × MappingId) :=
  (a.tables.allocate? key index declaredOn).pmap (fun p h => (⟨p.1, h⟩, p.2))
    fun _ h => a.written.allocate h

/-- Change every mapping; its pair of types stays. -/
def transform (f : MappingId → Mapping → Mapping) (a : Arena) : Arena :=
  ⟨a.tables.transform f, a.written.transform f⟩

/-- Change the mapping of an id; its pair of types stays. -/
def modify (id : MappingId) (f : Mapping → Mapping) (a : Arena) : Arena :=
  a.transform fun i m => if i = id then f m else m

/-! ## 3. Reaching -/

/-- Visit ids from a stack, each once and its targets right behind it; `seen` are those visited,
the last one first. -/
def visit (a : Arena) : Nat → List MappingId → List MappingId → List MappingId
  | 0, seen, _ => seen.reverse
  | _, seen, [] => seen.reverse
  | fuel + 1, seen, id :: stack =>
    if seen.contains id then visit a fuel seen stack
    else
      let next := ((a.get? id).map Mapping.targets).getD []
      visit a fuel (id :: seen) (next.filter (fun t => !(id :: seen).contains t) ++ stack)

/-- The number of steps that suffice: one id to start with, those that visits put on the stack, and
one step to find the stack empty. -/
def visitBound (a : Arena) : Nat :=
  2 + a.mappings.foldr (fun m n => m.targets.length + n) 0

/-- The ids that one reaches through bound delegates: itself first, then in depth-first order. -/
def reachable (a : Arena) (id : MappingId) : List MappingId := a.visit a.visitBound [] [id]

end Arena

end TypeMapper
