import TypeMapper.Artifact
import TypeMapper.Proofs.Outcome
/-!
# What a module is made of

A module holds the routine of its mapping and, if they are asked for, the routine over a sequence
and the projection. Each routine is put together from parts that are made apart, so what is proved
of a part holds in the routine, and what is proved of a routine in the module.

* `Emitter.PrimaryParts`, `SequenceParts`, `ProjectionParts`: the parts of the routines.
* `Emitter.Holds`: the routines of a module; `Emitter.module_holds`.
-/

namespace TypeMapper

namespace Emitter

variable {e : Emitter}

/-! ## 1. Routines -/

/-- The parts of the routine of a mapping. -/
structure PrimaryParts (e : Emitter) (r : PrimaryRoutine) : Prop where
  name : e.names.routine e.id = .ok r.name
  source : e.scope.path e.mapping.source = .ok r.source
  destination : e.scope.path e.mapping.destination = .ok r.destination
  parameters : e.parameters = .ok r.parameters
  resolvers : e.mapping.resolvers.mapM e.resolverBinding = .ok r.resolvers
  fields : e.mapping.properties.mapM e.field = .ok r.fields
  isAsync : r.isAsync = e.mapping.isAsync

theorem primary_parts : Gives e.PrimaryParts e.primary := by
  unfold primary
  refine (gives_self _).bind fun _ hname => (gives_self _).bind fun _ hsource => ?_
  refine (gives_self _).bind fun _ hdestination => (gives_self _).bind fun _ hparameters => ?_
  refine (gives_self _).bind fun _ hresolvers => (gives_self _).bind fun _ hfields => ?_
  exact gives_ok ⟨hname, hsource, hdestination, hparameters, hresolvers, hfields, rfl⟩

/-- The parts of the routine over a sequence. -/
structure SequenceParts (e : Emitter) (r : SequenceRoutine) : Prop where
  name : e.names.many e.id = .ok r.name
  single : e.names.routine e.id = .ok r.single
  source : e.scope.path e.mapping.source = .ok r.source
  destination : e.scope.path e.mapping.destination = .ok r.destination
  parameters : e.parameters = .ok r.parameters
  isAsync : r.isAsync = e.mapping.isAsync

theorem sequence_parts : Gives e.SequenceParts e.sequence := by
  unfold sequence
  refine (gives_self _).bind fun _ hname => (gives_self _).bind fun _ hsingle => ?_
  refine (gives_self _).bind fun _ hsource => (gives_self _).bind fun _ hdestination => ?_
  exact (gives_self _).bind fun _ hparameters =>
    gives_ok ⟨hname, hsingle, hsource, hdestination, hparameters, rfl⟩

/-- The parts of a projection: its body is the literal of its mapping, which reads from its input.
-/
structure ProjectionParts (e : Emitter) (r : Projection) : Prop where
  name : e.names.projection e.id = .ok r.name
  source : e.scope.path e.mapping.source = .ok r.source
  destination : e.scope.path e.mapping.destination = .ok r.destination
  input : r.input = inputName "source" (e.mapping.readsInput 0)
  body : e.literal e.id (.binding r.input false) = .ok r.body

theorem projection_parts : Gives e.ProjectionParts e.projection := by
  unfold projection
  refine (gives_self _).bind fun _ hname => (gives_self _).bind fun _ hsource => ?_
  exact (gives_self _).bind fun _ hdestination => (gives_self _).bind fun _ hbody =>
    gives_ok ⟨hname, hsource, hdestination, rfl, hbody⟩

/-! ## 2. Modules -/

/-- What is made if it is asked for is what would be made. -/
theorem ifAsked_made {α : Type} (asked : Bool) (x : Emit α) :
    Gives (fun o => ∀ a ∈ o, x = .ok a) (ifAsked asked x) := by
  unfold ifAsked
  split
  · refine (gives_self x).map fun a ha b hb => ?_
    exact Option.some.inj hb ▸ ha
  · exact gives_ok nofun

/-- The routines of a module, and the imports of the paths that they name. -/
structure Holds (e : Emitter) (k : MappingModule) : Prop where
  name : e.names.moduleName e.id = .ok k.name
  primary : e.primary = .ok k.primary
  sequence : ∀ r ∈ k.sequence, e.sequence = .ok r
  projection : ∀ r ∈ k.projection, e.projection = .ok r
  imports : importCodes (importPaths k.paths) = .ok k.imports
  extraImports : e.config.extraImports.mapM extraImport = .ok k.extraImports

/-- **A module holds the routines of its mapping.** -/
theorem module_holds : Gives e.Holds e.module := by
  unfold module
  refine (gives_self _).bind fun name hname => (gives_self _).bind fun primary hprimary => ?_
  refine (ifAsked_made _ _).bind fun sequence hsequence => ?_
  refine (ifAsked_made _ _).bind fun projection hprojection => ?_
  refine (gives_self _).bind fun imports himports => (gives_self _).bind fun extra hextra => ?_
  exact gives_ok ⟨hname, hprimary, hsequence, hprojection, himports, hextra⟩

end Emitter

end TypeMapper
