import TypeMapper.Artifact
import TypeMapper.Proofs.Batch.Rejection
import TypeMapper.Proofs.EntryParameters
import TypeMapper.Proofs.Routine.Primary
import TypeMapper.Proofs.Routine.Projection
/-!
# The artifacts of accepted mappings

What the routines of an accepted mapping look up is there: its parameters are those of everything
that it reaches, and its calls go to accepted mappings. So its artifact fails for the spelling of a
text, or not at all.

* `Emitter.module_lexical`: the module of a mapping that is ready.
* `Batch.ready_of_isValid`, `Batch.callsAccepted_discover`: accepted mappings are.
* `Batch.module_error_of_isValid`: the errors of the artifact of an accepted mapping.
-/

namespace TypeMapper

open Emit

/-! ## 1. Modules -/

variable {N : String → Prop}

theorem importCodes_lexical (paths : List String) : Lexical N (importCodes paths) :=
  lexical_mapM fun p _ => lexical_ofOption (Or.inr (Or.inl ⟨p, rfl⟩))

theorem extraImport_lexical (text : String) : Lexical N (extraImport text) :=
  lexical_ofOption (Or.inr (Or.inl ⟨text, rfl⟩))

theorem ifAsked_lexical {α : Type} {asked : Bool} {x : Emit α}
    (hx : asked = true → Lexical N x) : Lexical N (ifAsked asked x) := by
  unfold ifAsked
  split
  · rename_i hask
    exact (hx hask).map some
  · exact lexical_ok none

/-- **The module of a mapping** fails only for the spelling of a text or of a made name, if all that
its routines look up is there. -/
theorem Emitter.module_lexical {e : Emitter} (h : e.Ready) (ha : e.arena.CallsAccepted)
    (hv : e.mapping.isValid = true) : Lexical e.MakesName e.module := by
  have hname : Lexical e.MakesName (e.names.moduleName e.id) := by
    rw [h.names]
    exact RoutineNames.moduleName_lexical h.own fun base hbase => .module (h.names ▸ hbase)
  unfold module
  refine hname.bind fun _ _ => (primary_lexical h).bind fun _ _ => ?_
  refine (ifAsked_lexical (sequence_lexical h)).bind fun _ _ => ?_
  refine (ifAsked_lexical fun hask =>
    projection_lexical h.names ha hask h.own hv).bind fun _ _ => ?_
  refine (importCodes_lexical _).bind fun _ _ => ?_
  exact (lexical_mapM fun p _ => extraImport_lexical p).bind fun _ _ => lexical_ok _

/-- What has to be there for the emitter of a mapping of an arena. -/
theorem Emitter.ready_ofArena {a : Arena} {c : Config} {id : MappingId} {m : Mapping}
    (h : a.get? id = some m)
    (methods : ∀ d, Strategy.method d ∈ m.strategies → ∀ p ∈ d.arguments,
      (EntryParameter.ofLocal p.name p.ty).isIn m.entryParameters = true)
    (constructors : ∀ i ∈ m.resolvers, ∀ p ∈ i.arguments, p.isIn m.entryParameters = true)
    (calls : ∀ d ∈ m.delegates, ∃ t k, d.target = some t ∧ a.get? t = some k ∧
      ∀ q ∈ k.entryParameters, q.isIn m.entryParameters = true) :
    (ofArena a c (RoutineNames.ofArena a) id m).Ready := by
  refine ⟨rfl, h, fun d hd p hp => ?_, fun i hi p hp => ?_, fun d hd => ?_⟩
  · exact EntryParameter.isIn_iff.mp (methods d hd p hp)
  · exact EntryParameter.isIn_iff.mp (constructors i hi p hp)
  · obtain ⟨t, k, ht, hk, hq⟩ := calls d hd
    exact ⟨t, k, ht, hk, fun q hmem => EntryParameter.isIn_iff.mp (hq q hmem)⟩

theorem Emitter.module_ofArena_lexical {a : Arena} {c : Config} {id : MappingId} {m : Mapping}
    (h : (ofArena a c (RoutineNames.ofArena a) id m).Ready) (ha : a.CallsAccepted)
    (hv : m.isValid = true) (e : SpellingError)
    (he : (ofArena a c (RoutineNames.ofArena a) id m).module = .error (.skip e)) : e.IsLexical :=
  module_lexical h ha hv _ he

/-! ## 2. Accepted mappings -/

namespace Batch

variable {s : Schema} {c : Config} {id : MappingId} {m : Mapping}

theorem callsAccepted_discover (s : Schema) (c : Config) :
    (discover s c).arena.CallsAccepted := fun _ _ h hv _ hd => by
  obtain ⟨t, k, ht, hk, -, hkv⟩ := delegates_of_isValid h hv hd
  exact ⟨t, k, ht, hk, hkv⟩

/-- **What the routines of an accepted mapping look up is there.** -/
theorem ready_of_isValid (h : (discover s c).arena.get? id = some m) (hv : m.isValid = true) :
    (Emitter.ofArena (discover s c).arena c (RoutineNames.ofArena (discover s c).arena) id
      m).Ready := by
  obtain ⟨n, l, hpassed⟩ := passed_of_isValid h hv
  obtain ⟨hmethods, hconstructors⟩ := Schema.helpers_resolved hpassed.resolved
  refine Emitter.ready_ofArena h (fun d hd p hp => ?_) (fun i hi p hp => ?_) fun d hd => ?_
  · exact hpassed.isIn_of_local (hmethods d (hpassed.strategies_eq ▸ hd) p hp)
  · exact hpassed.isIn_of_local (hconstructors i (hpassed.resolvers_eq ▸ hi) p hp)
  · obtain ⟨t, k, ht, hk, -, hkv⟩ := delegates_of_isValid h hv hd
    obtain ⟨n', l', hpassed'⟩ := passed_of_isValid hk hkv
    have hstep : (s.resolved c).Delegates id t :=
      ⟨n, hpassed.resolved, Arena.mem_targets_iff.mpr ⟨d, hpassed.delegates_eq ▸ hd, ht⟩⟩
    exact ⟨t, k, ht, hk,
      fun q hq => hpassed.isIn_of_callee hstep (hpassed'.entryParameters_eq ▸ hq)⟩

/-- **The artifact of an accepted mapping fails only for the spelling of a text**: nothing that its
routines look up is missing, no call is unbound and no helper gets into the projection. -/
theorem module_error_of_isValid (h : (discover s c).arena.get? id = some m)
    (hv : m.isValid = true) {e : SpellingError}
    (he : (Emitter.ofArena (discover s c).arena c (RoutineNames.ofArena (discover s c).arena) id
      m).module = .error (.skip e)) :
    (∃ t, e = .invalidName t) ∨ (∃ t, e = .invalidPath t) ∨ ∃ t, e = .invalidType t :=
  Emitter.module_ofArena_lexical (ready_of_isValid h hv) (callsAccepted_discover s c) hv e he

/-- A note with a property whose name is no word. -/
def noteSchema : Schema :=
  Schema.ofLists
    [⟨"app::Note", none, false, true, [text], [⟨.mapTo "app::Card", none⟩], []⟩,
      ⟨"app::Card", none, false, true, [text], [], []⟩] []
where
  /-- The property. -/
  text : Property := ⟨"two words", .scalar "String" false false, false, ⟨true, true⟩, []⟩

/-- The mapping of a note is accepted, and its artifact fails for the name of the property. -/
theorem module_error_of_note : ∃ m e,
    (discover noteSchema Config.standard).arena.get? 0 = some m ∧ m.isValid = true ∧
    (Emitter.ofArena (discover noteSchema Config.standard).arena Config.standard
      (RoutineNames.ofArena (discover noteSchema Config.standard).arena) 0 m).module
        = .error (.skip e) ∧
    ((∃ t, e = .invalidName t) ∨ (∃ t, e = .invalidPath t) ∨ ∃ t, e = .invalidType t) := by
  have haccepted : ((discover noteSchema Config.standard).arena.get? 0).map (fun m => (m.isValid,
      (Emitter.ofArena (discover noteSchema Config.standard).arena Config.standard
        (RoutineNames.ofArena (discover noteSchema Config.standard).arena) 0 m).module.skipped?))
      = some (true, some (.invalidName "two words")) := by
    decide +kernel
  obtain ⟨m, hm, hfields⟩ := Option.map_eq_some_iff.mp haccepted
  rw [Prod.mk.injEq] at hfields
  obtain ⟨hv, he⟩ := hfields
  have he := skipped?_eq_some_iff.mp he
  exact ⟨m, _, hm, hv, he, module_error_of_isValid hm hv he⟩

end Batch

end TypeMapper
