import TypeMapper.Mapping.Arena
/-!
# Entry parameters

A routine takes the parameters of its own helpers and those of every mapping that it reaches. A
parameter whose name is taken is renamed after the destination type of the mapping that needs it; if
that name is taken too, the parameter is left out and reported.

* `reservedNames`: the names that every routine uses itself.
* `Arena.entryParameters`: the parameters of a routine, with what was reported.
-/

namespace TypeMapper

/-- The names that a routine uses for its own values. -/
def reservedNames : List String := ["source", "sources", "destination"]

/-- The parameters so far and what was reported. -/
structure ParameterList where
  parameters : List EntryParameter
  reports : List Diagnostic
  deriving DecidableEq, Repr, Inhabited

namespace ParameterList

/-- The names that are taken: those of the routine, of its resolvers and of the parameters. -/
def taken (root : Mapping) (l : ParameterList) : List String :=
  reservedNames ++ root.resolvers.map ResolverInstance.ident
    ++ l.parameters.map EntryParameter.name

/-- Take one more parameter, which the mapping `owner` needs. -/
def add (root owner : Mapping) (l : ParameterList) (p : EntryParameter) : ParameterList :=
  let taken := l.taken root
  if p.isIn l.parameters then l
  else if !taken.contains p.name then { l with parameters := l.parameters ++ [p] }
  else
    let renamed := TypePath.snakeIdent owner.destination ++ "_" ++ p.localName
    if taken.contains renamed then
      { l with reports := l.reports ++ [Diagnostic.report .parameterCollision
          (Location.ofType root.destination)
          ("parameter '" ++ p.localName ++ "' required by '" ++ owner.key.text
            ++ "' collides with an existing parameter")] }
    else { l with parameters := l.parameters ++ [{ p with name := renamed }] }

/-- Take the parameters of a mapping. -/
def addAll (root : Mapping) (l : ParameterList) (owner : Mapping) : ParameterList :=
  owner.localParameters.foldl (add root owner) l

end ParameterList

/-- The parameters of the routine of an id, with what was reported. -/
def Arena.entryParameters (a : Arena) (id : MappingId) : ParameterList :=
  match a.get? id with
  | none => ⟨[], []⟩
  | some root => ((a.reachable id).filterMap a.get?).foldl (ParameterList.addAll root) ⟨[], []⟩

end TypeMapper
