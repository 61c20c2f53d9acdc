import TypeMapper.Routine.Primary
/-!
# The routine over a sequence

The routine of a mapping applied to every source of a sequence; the results come one by one, as an
iterator or, if the routine is asynchronous, as a stream.

* `SequenceRoutine`: the routine; `Emitter.sequence` makes it and `SequenceRoutine.code` spells it.
-/

namespace TypeMapper

/-- The routine over a sequence. -/
structure SequenceRoutine where
  name : String
  /-- The routine for one source. -/
  single : String
  key : MappingKey
  source : PathSpelling
  destination : PathSpelling
  parameters : List (String × TypeSpelling)
  isAsync : Bool
  deriving Inhabited

/-- The routine over a sequence of a mapping. -/
def Emitter.sequence (e : Emitter) : Emit SequenceRoutine := do
  let name ← e.names.many e.id
  let single ← e.names.routine e.id
  let source ← e.scope.path e.mapping.source
  let destination ← e.scope.path e.mapping.destination
  let parameters ← e.parameters
  return ⟨name, single, e.mapping.key, source, destination, parameters, e.mapping.isAsync⟩

namespace SequenceRoutine

/-- The paths that the routine names. -/
def paths (r : SequenceRoutine) : List PathSpelling :=
  r.source :: r.destination :: r.parameters.flatMap fun p => p.2.paths

/-- The bound by the lifetime of the sources. -/
def bounded : Code := op "+" ++ PrimaryRoutine.sharedLifetime

/-- The parameters: the sources and those of the routine. -/
def parameterCode (r : SequenceRoutine) : Code :=
  let sources := words ["sources"] ++ op ":" ++ words ["impl", "IntoIterator"]
    ++ angles (words ["Item"] ++ op "=" ++ op "&" ++ PrimaryRoutine.sharedLifetime ++ r.source.code)
    ++ bounded
  let others := r.parameters.map fun p =>
    words [p.1] ++ op ":" ++ op "&" ++ PrimaryRoutine.sharedLifetime ++ p.2.code
  parens (terminated (sources :: others))

/-- The closure that maps one source. -/
def closureCode (r : SequenceRoutine) : Code :=
  words ["move"] ++ Value.bars (words ["source"]) ++ words [r.single]
    ++ parens (words ["source"] ++ Value.further (r.parameters.map Prod.fst))

/-- The start of the type of an item, which is still open. -/
def itemCode (r : SequenceRoutine) : Code :=
  words ["Item"] ++ op "=" ++ words ["Result"] ++ op "<" ++ r.destination.code ++ op ","
    ++ Value.errorCode

/-- A path of the library of streams. -/
def streams (segments : List String) : Code :=
  Value.runtime ("__reexports" :: "futures" :: segments)

/-- The tokens of the routine. -/
def code (r : SequenceRoutine) : Code :=
  let head := docLine ("Map every `" ++ r.key.source ++ "` yielded by `sources` to `"
      ++ r.key.destination ++ "`.")
    ++ words ["pub", "fn", r.name] ++ angles PrimaryRoutine.sharedLifetime ++ r.parameterCode
    ++ op "->" ++ words ["impl"]
  if r.isAsync then
    head ++ streams ["Stream"] ++ angles (r.itemCode ++ op ">" ++ op ",") ++ bounded
      ++ braces (streams ["StreamExt", "then"]
        ++ parens (terminated [streams ["stream", "iter"] ++ parens (words ["sources"]),
          r.closureCode]))
  else
    head ++ words ["Iterator"] ++ op "<" ++ r.itemCode ++ op ">>" ++ bounded
      ++ braces (words ["sources"] ++ Value.call "into_iter" [] ++ Value.call "map" r.closureCode)

end SequenceRoutine

end TypeMapper
