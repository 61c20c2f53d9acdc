import TypeMapper.Proofs.Artifact
import TypeMapper.Proofs.Batch.Nullability
import TypeMapper.Proofs.Routine.Calls
import TypeMapper.Proofs.Routine.Modules
import TypeMapper.Proofs.Routine.Names
/-!
# Which called routines are defined

The artifacts of one run call each other's routines by name: a routine calls those of the mappings
that it delegates to, and the side artifacts those that need nothing but a source. All of them are
routines of accepted mappings. The artifact of such a mapping defines its routine unless it is left
out for a text that cannot be spelled, which the callers never ask.

* `ArtifactBody.called`, `ArtifactBody.defined`: the routines that an artifact calls and defines.
* `Artifact.ofMapping_cases`: the artifact of a mapping.
* `Batch.artifacts_link`: the artifacts of a batch, and what they call.
* `Batch.defined_or_skipped`: a called routine is defined unless the artifact of its mapping is left
  out.
-/

namespace TypeMapper

/-! ## 1. Calls of artifacts -/

namespace ArtifactBody

/-- The names of the routines that an artifact calls: those of delegates, or those that it registers
or dispatches to. -/
def called : ArtifactBody → List String
  | module k => k.primary.calls.map RoutineCall.routine
  | registration ds => ds.map Dispatch.routine
  | dispatch ds => ds.map Dispatch.routine
  | skipped .. => []

/-- The names of the routines that an artifact defines. -/
def defined : ArtifactBody → List String
  | module k => k.primary.name :: (k.sequence.map SequenceRoutine.name).toList
    ++ (k.projection.map Projection.name).toList
  | _ => []

end ArtifactBody

/-! ## 2. Single artifacts -/

namespace Emitter

variable {e : Emitter}

theorem primary_name : Gives (fun r => e.names.routine e.id = .ok r.name) e.primary :=
  primary_parts.imp fun _ h => h.name

theorem module_primary : Gives (fun k => e.primary = .ok k.primary) e.module :=
  module_holds.imp fun _ h => h.primary

end Emitter

namespace Artifact

variable {a : Arena} {c : Config} {names : RoutineNames} {p : MappingId × Mapping} {x : Artifact}
  {n : String}

/-- **The artifact of a mapping** holds its module, or says why there is none. -/
theorem ofMapping_cases (h : ofMapping a c names p = .ok x) :
    (∃ k, (Emitter.ofArena a c names p.1 p.2).module = .ok k ∧ x.body = .module k) ∨
      ∃ e, (Emitter.ofArena a c names p.1 p.2).module = .error (.skip e) ∧
        x.body = .skipped p.2.key.text e.message := by
  unfold ofMapping at h
  cases hmodule : (Emitter.ofArena a c names p.1 p.2).module with
  | ok k =>
      rw [hmodule] at h
      exact Or.inl ⟨k, rfl, congrArg body (Except.ok.inj h).symm⟩
  | error o =>
      rw [hmodule] at h
      cases o with
      | skip e => exact Or.inr ⟨e, rfl, congrArg body (Except.ok.inj h).symm⟩
      | malformed name => cases h

/-- A module defines the routine of its mapping. -/
theorem mem_defined_of_module {k : MappingModule}
    (hk : (Emitter.ofArena a c names p.1 p.2).module = .ok k) (hn : names.routine p.1 = .ok n) :
    n ∈ (ArtifactBody.module k).defined := by
  have hname := Emitter.primary_name _ (Emitter.module_primary k hk)
  rw [Except.ok.inj (hn.symm.trans hname)]
  exact List.mem_cons_self

/-- A module calls the routines of the targets of its mapping. -/
theorem target_of_called {k : MappingModule}
    (hslotwise : ∀ q ∈ p.2.properties, q.shape ≠ .scalar → q.strategy = none)
    (hk : (Emitter.ofArena a c names p.1 p.2).module = .ok k)
    (hn : n ∈ (ArtifactBody.module k).called) :
    ∃ d ∈ p.2.delegates, ∃ t, d.target = some t ∧ names.routine t = .ok n := by
  obtain ⟨call, hcall, rfl⟩ := List.mem_map.mp hn
  obtain ⟨-, hcalls⟩ := Emitter.primary_calls hslotwise _ (Emitter.module_primary k hk)
  obtain ⟨d, hd, hmakes⟩ := exists_of_mem_right hcalls hcall
  exact ⟨d, hd, call.target, hmakes.target, hmakes.routine⟩

/-- A side artifact holds what it is given, or says why it does not. -/
theorem side_gives {Q : ArtifactBody → Prop} {body : Emit ArtifactBody} (hbody : Gives Q body)
    (hskip : ∀ subject reason, Q (.skipped subject reason)) (asked : Bool) (name : String) :
    Gives (fun xs => ∀ x ∈ xs, Q x.body) (side asked name body) := by
  unfold side
  split
  · refine (ofEmit_gives hbody (hskip name)).map fun x hx y hy => ?_
    rw [List.mem_singleton.mp hy]
    exact hx.2
  · exact gives_ok fun x hx => absurd hx List.not_mem_nil

end Artifact

/-- The routines of a side artifact are those of accepted mappings that need nothing but a source. -/
theorem Dispatch.ofArena_gives (a : Arena) (names : RoutineNames) :
    Gives (fun ds => ∀ d ∈ ds, ∃ p ∈ a.entries, p.2.isPlain = true ∧
      names.routine p.1 = .ok d.routine) (ofArena a names) := by
  refine (gives_mapM (R := fun p d => names.routine p.1 = .ok d.routine) fun p _ => ?_).imp
    fun ds hds d hd => ?_
  · refine (gives_true _).bind fun _ _ => (gives_true _).bind fun _ _ => ?_
    exact (gives_self _).bind fun routine hroutine => gives_ok hroutine
  · obtain ⟨p, hp, hroutine⟩ := exists_of_mem_right hds hd
    obtain ⟨hmem, hplain⟩ := List.mem_filter.mp hp
    exact ⟨p, hmem, hplain, hroutine⟩

/-! ## 3. The artifacts of a run -/

namespace Batch

variable {s : Schema} {c : Config}

theorem mem_accepted_iff {b : Batch} {p : MappingId × Mapping} :
    p ∈ b.accepted ↔ b.arena.get? p.1 = some p.2 ∧ p.2.isValid = true :=
  List.mem_filter.trans (and_congr_left fun _ => Arena.mem_entries_iff)

/-- The artifacts of a batch: every accepted mapping has one, and what is no artifact of a mapping
calls routines of accepted mappings only. -/
theorem artifacts_link (b : Batch) (c : Config) :
    Gives (fun xs => (∀ p ∈ b.accepted, ∃ y ∈ xs,
        Artifact.ofMapping b.arena c (RoutineNames.ofArena b.arena) p = .ok y) ∧
        ∀ x ∈ xs, (∃ p ∈ b.accepted,
            Artifact.ofMapping b.arena c (RoutineNames.ofArena b.arena) p = .ok x) ∨
          ∀ n ∈ x.body.called, ∃ p ∈ b.accepted,
            (RoutineNames.ofArena b.arena).routine p.1 = .ok n) (b.artifacts c) := by
  let names := RoutineNames.ofArena b.arena
  have hroutines : Gives (fun ds : List Dispatch => ∀ n ∈ ds.map Dispatch.routine,
      ∃ p ∈ b.accepted, names.routine p.1 = .ok n) (Dispatch.ofArena b.arena names) := by
    refine (Dispatch.ofArena_gives b.arena names).imp fun ds hds n hn => ?_
    obtain ⟨d, hd, rfl⟩ := List.mem_map.mp hn
    obtain ⟨p, hp, hplain, hroutine⟩ := hds d hd
    rw [Mapping.isPlain, Bool.and_eq_true, Bool.and_eq_true] at hplain
    exact ⟨p, List.mem_filter.mpr ⟨hp, hplain.1.1⟩, hroutine⟩
  have hside (make : List Dispatch → ArtifactBody)
      (hmake : ∀ ds, (make ds).called = ds.map Dispatch.routine) (asked : Bool) (name : String) :
      Gives (fun xs => ∀ x ∈ xs, ∀ n ∈ x.body.called, ∃ p ∈ b.accepted,
          names.routine p.1 = .ok n)
        (Artifact.side asked name ((Dispatch.ofArena b.arena names).map make)) := by
    refine Artifact.side_gives (Q := fun body => ∀ n ∈ body.called, ∃ p ∈ b.accepted,
      names.routine p.1 = .ok n) (hroutines.map fun ds hds => ?_)
      (fun _ _ n hn => absurd hn List.not_mem_nil) asked name
    rw [hmake]
    exact hds
  unfold artifacts
  refine (gives_mapM fun p _ => gives_self _).bind fun modules hmodules => ?_
  refine (hside .registration (fun _ => rfl) _ _).bind fun registration hregistration => ?_
  refine (hside .dispatch (fun _ => rfl) _ _).bind fun dispatch hdispatch => gives_ok ⟨?_, ?_⟩
  · intro p hp
    obtain ⟨y, hy, hmade⟩ := exists_of_mem_left hmodules hp
    exact ⟨y, List.mem_append_left _ (List.mem_append_left _ hy), hmade⟩
  · intro x hx
    rcases List.mem_append.mp hx with hx | hx
    · rcases List.mem_append.mp hx with hx | hx
      · exact Or.inl (exists_of_mem_right hmodules hx)
      · exact Or.inr (hregistration x hx)
    · exact Or.inr (hdispatch x hx)

/-- What an artifact calls is the routine of an accepted mapping. -/
theorem accepted_of_called {xs : List Artifact} (h : (discover s c).artifacts c = .ok xs)
    {x : Artifact} (hx : x ∈ xs) {n : String} (hn : n ∈ x.body.called) :
    ∃ p ∈ (discover s c).accepted,
      (RoutineNames.ofArena (discover s c).arena).routine p.1 = .ok n := by
  rcases (artifacts_link _ c xs h).2 x hx with ⟨p, hp, hmade⟩ | hside
  · obtain ⟨hget, hv⟩ := mem_accepted_iff.mp hp
    rcases Artifact.ofMapping_cases hmade with ⟨k, hk, hbody⟩ | ⟨e, -, hbody⟩
    · rw [hbody] at hn
      have hslotwise : ∀ q ∈ p.2.properties, q.shape ≠ .scalar → q.strategy = none :=
        fun q hq => (built_of_isValid hget hv q hq).slotwise
      obtain ⟨d, hd, t, ht, hroutine⟩ := Artifact.target_of_called hslotwise hk hn
      obtain ⟨t', k', ht', hk', -, hkv⟩ := delegates_of_isValid hget hv hd
      obtain rfl := Option.some.inj (ht.symm.trans ht')
      exact ⟨(t, k'), mem_accepted_iff.mpr ⟨hk', hkv⟩, hroutine⟩
    · rw [hbody] at hn
      exact absurd hn List.not_mem_nil
  · exact hside n hn

/-- **A routine that is called is the routine of an accepted mapping**, and the artifact of that
mapping defines it, unless a text of its module cannot be spelled: then nothing is in that artifact
but why, and the calls stay. -/
theorem defined_or_skipped {xs : List Artifact} (h : (discover s c).artifacts c = .ok xs)
    {x : Artifact} (hx : x ∈ xs) {n : String} (hn : n ∈ x.body.called) :
    ∃ p ∈ (discover s c).accepted, ∃ y ∈ xs,
      (RoutineNames.ofArena (discover s c).arena).routine p.1 = .ok n ∧
      Artifact.ofMapping (discover s c).arena c (RoutineNames.ofArena (discover s c).arena) p =
        .ok y ∧
      (n ∈ y.body.defined ∨
        ∃ e : SpellingError, e.IsLexical ∧ y.body = .skipped p.2.key.text e.message) := by
  obtain ⟨p, hp, hroutine⟩ := accepted_of_called h hx hn
  obtain ⟨y, hy, hmade⟩ := (artifacts_link _ c xs h).1 p hp
  refine ⟨p, hp, y, hy, hroutine, hmade, ?_⟩
  rcases Artifact.ofMapping_cases hmade with ⟨k, hk, hbody⟩ | ⟨e, he, hbody⟩
  · rw [hbody]
    exact Or.inl (Artifact.mem_defined_of_module hk hroutine)
  · obtain ⟨hget, hv⟩ := mem_accepted_iff.mp hp
    exact Or.inr ⟨e, Emitter.module_ofArena_lexical (ready_of_isValid hget hv)
      (callsAccepted_discover s c) hv e he, hbody⟩

/-- An order with a line, which has one text. -/
def lineSchema (name : String) : Schema :=
  Schema.ofLists
    [type "shop::Order" [line "shop::Line"] (some "view::Order"),
      type "shop::Line" [text] (some "view::Line"),
      type "view::Order" [line "view::Line"] none, type "view::Line" [text] none] []
where
  /-- The text. -/
  text : Property := ⟨name, .scalar "String" false false, false, ⟨true, true⟩, []⟩
  /-- The line of an order. -/
  line (path : String) : Property := ⟨"line", .object path false, false, ⟨true, true⟩, []⟩
  /-- A type that may be mapped to another. -/
  type (path : String) (properties : List Property) (view : Option String) : TypeDecl :=
    ⟨path, none, false, true, properties, view.toList.map fun d => ⟨.mapTo d, none⟩, []⟩

/-- Settings that ask for the side artifacts. -/
def sideConfig : Config := { Config.standard with registration := true, dispatch := true }

/-- The artifacts for an order. -/
def lineArtifacts (name : String) : Except String (List Artifact) :=
  (discover (lineSchema name) sideConfig).artifacts sideConfig

/-- The artifact of an order calls the routine for its line, and the artifact of lines defines it. -/
theorem defined_of_line : ∃ xs x p y, lineArtifacts "code" = .ok xs ∧ x ∈ xs ∧
    "map_line_to_line" ∈ x.body.called ∧
    p ∈ (discover (lineSchema "code") sideConfig).accepted ∧ y ∈ xs ∧
    Artifact.ofMapping (discover (lineSchema "code") sideConfig).arena sideConfig
      (RoutineNames.ofArena (discover (lineSchema "code") sideConfig).arena) p = .ok y ∧
    "map_line_to_line" ∈ y.body.defined := by
  have hreport : (lineArtifacts "code").toOption.map (fun xs =>
      xs.map fun x => (x.body.isSkipped, x.body.called)) = some
      [(false, []), (false, ["map_line_to_line"]),
        (false, ["map_line_to_line", "map_order_to_order"]),
        (false, ["map_line_to_line", "map_order_to_order"])] := by
    decide +kernel
  obtain ⟨xs, hxs, hfields⟩ := Option.map_eq_some_iff.mp hreport
  have hxs := eq_ok_of_toOption hxs
  obtain ⟨x, hx, hcalls⟩ := List.mem_map.mp (hfields ▸ List.mem_cons_of_mem _ List.mem_cons_self)
  rw [Prod.mk.injEq] at hcalls
  have hcalled : "map_line_to_line" ∈ x.body.called := hcalls.2 ▸ List.mem_cons_self
  obtain ⟨p, hp, y, hy, -, hmade, hdefined⟩ := defined_or_skipped hxs hx hcalled
  refine ⟨xs, x, p, y, hxs, hx, hcalled, hp, hy, hmade, hdefined.resolve_right ?_⟩
  -- nothing is left out of this run
  rintro ⟨e, -, hskipped⟩
  have hmem : (y.body.isSkipped, y.body.called) ∈ xs.map fun x => (x.body.isSkipped, x.body.called) :=
    List.mem_map_of_mem hy
  rw [hfields, hskipped] at hmem
  simp [ArtifactBody.isSkipped] at hmem

/-- The text of a line has a name that is no word, so the artifact of lines is left out; the artifact
of an order and both side artifacts call its routine still. -/
theorem called_not_defined : ∃ xs, lineArtifacts "two words" = .ok xs ∧
    (xs.filter fun x => x.body.called.contains "map_line_to_line").map
      (fun x => (x.name, x.body.isSkipped)) =
      [("order_to_order", false), ("registration", false), ("dispatch", false)] ∧
    ∀ y ∈ xs, "map_line_to_line" ∉ y.body.defined := by
  have hreport : (lineArtifacts "two words").toOption.map (fun xs =>
      ((xs.filter fun x => x.body.called.contains "map_line_to_line").map
        (fun x => (x.name, x.body.isSkipped)),
        xs.all fun y => decide ("map_line_to_line" ∉ y.body.defined))) =
      some ([("order_to_order", false), ("registration", false), ("dispatch", false)], true) := by
    decide +kernel
  obtain ⟨xs, hxs, hfields⟩ := Option.map_eq_some_iff.mp hreport
  rw [Prod.mk.injEq] at hfields
  refine ⟨xs, eq_ok_of_toOption hxs, hfields.1, fun y hy => ?_⟩
  exact of_decide_eq_true (List.all_eq_true.mp hfields.2 y hy)

end Batch

end TypeMapper
