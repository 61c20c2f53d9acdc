import TypeMapper.Generation
import TypeMapper.Mapping.Json
import TypeMapper.Proofs.Absence.Accepted
import TypeMapper.Proofs.Absence.Losses
import TypeMapper.Proofs.Acceptance
import TypeMapper.Proofs.Arena.Preorder
import TypeMapper.Proofs.Artifact
import TypeMapper.Proofs.Batch.Acyclic
import TypeMapper.Proofs.Batch.Async
import TypeMapper.Proofs.Batch.Capture
import TypeMapper.Proofs.Batch.Depths
import TypeMapper.Proofs.Batch.Discovery
import TypeMapper.Proofs.Batch.Exits
import TypeMapper.Proofs.Batch.Extension
import TypeMapper.Proofs.Batch.Imports
import TypeMapper.Proofs.Batch.Inputs
import TypeMapper.Proofs.Batch.Literals
import TypeMapper.Proofs.Batch.Rejection
import TypeMapper.Proofs.Batch.Resolvers
import TypeMapper.Proofs.Batch.Settings
import TypeMapper.Proofs.Batch.Suitability
import TypeMapper.Proofs.Batch.Twins
import TypeMapper.Proofs.Construction.Overloads
import TypeMapper.Proofs.Construction.Refusal
import TypeMapper.Proofs.Construction.Signatures
import TypeMapper.Proofs.Construction.Steps
import TypeMapper.Proofs.Construction.Usage
import TypeMapper.Proofs.Directive.Order
import TypeMapper.Proofs.EntryParameters
import TypeMapper.Proofs.ErrorTree
import TypeMapper.Proofs.Generation
import TypeMapper.Proofs.Generation.Comments
import TypeMapper.Proofs.Matching.Split
import TypeMapper.Proofs.PropertyPath
import TypeMapper.Proofs.Routine.DepthCounter
import TypeMapper.Proofs.Routine.Names
import TypeMapper.Proofs.Routine.Primary
import TypeMapper.Proofs.Routine.Projection
import TypeMapper.Proofs.Routine.ResolverNames
import TypeMapper.Proofs.Schema.Assembly
import TypeMapper.Proofs.Schema.CycleReports
import TypeMapper.Proofs.Schema.WellFormed
import TypeMapper.Registry
