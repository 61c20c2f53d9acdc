import TypeMapper.Generation
import TypeMapper.Proofs.Batch.Linkage
import TypeMapper.Proofs.Schema.WellFormed
/-!
# How a run ends

A run on accepted settings and an accepted schema yields an artifact for every accepted mapping, and
what cannot be spelled becomes a comment there. That holds for the texts of the schema alone. The
names that the generator makes of them are not read again before they are used, and one that is no
word stops the whole run.

* `mapM_cases`: computations one after the other give all they give, or the first failure.
* `Emitter.routine_of_module`: a module that does not stop the run has proper names.
* `Artifact.Renders`, `Artifact.RendersSide`: the artifact of a mapping, and one for all of them.
* `Batch.artifacts_cases`: all artifacts, or a name that is no word; `Batch.exists_renders`: the
  artifact of an accepted mapping.
* `generate_cases`: the two ways in which a run ends.
-/

namespace TypeMapper

open Emit

/-! ## 1. Emissions one after the other -/

/-- Computations one after the other give all they give, or one of them fails and they fail so. -/
theorem mapM_cases {ε α β : Type} (f : α → Except ε β) (xs : List α) :
    (∃ ys, xs.mapM f = .ok ys ∧ List.Forall₂ (fun x y => f x = .ok y) xs ys) ∨
      ∃ x ∈ xs, ∃ e, f x = .error e ∧ xs.mapM f = .error e := by
  induction xs with
  | nil => exact .inl ⟨[], rfl, .nil⟩
  | cons x xs ih =>
      rw [List.mapM_cons]
      cases hx : f x with
      | error e => exact .inr ⟨x, List.mem_cons_self, e, hx, rfl⟩
      | ok y =>
          rcases ih with ⟨ys, hys, hall⟩ | ⟨z, hz, e, hez, he⟩
          · exact .inl ⟨y :: ys, by rw [hys]; rfl, .cons hx hall⟩
          · exact .inr ⟨z, List.mem_cons_of_mem x hz, e, hez, by rw [he]; rfl⟩

namespace Emitter

variable {e : Emitter} {base : String}

/-- **A module that does not stop the run has proper names**: its own is a word, and so is that of
its routine. Both are made before anything in the module can be left out. -/
theorem routine_of_module (hb : e.names.base? e.id = some base)
    (h : ∀ n, e.module ≠ .error (.malformed n)) :
    isWord base = true ∧ e.names.routine e.id = .ok ("map_" ++ base) := by
  have hmodule : e.names.moduleName e.id = made base := by
    rw [RoutineNames.moduleName, RoutineNames.base, hb]
    rfl
  have hroutine : e.names.routine e.id = made ("map_" ++ base) := by
    rw [RoutineNames.routine, RoutineNames.base, hb]
    rfl
  have hw : isWord base = true := by
    by_contra hno
    refine h base ?_
    rw [Emitter.module, hmodule, made, if_neg hno]
    rfl
  refine ⟨hw, ?_⟩
  rw [hroutine, made]
  by_contra hno
  split at hno
  · exact hno rfl
  · rename_i hno'
    refine h ("map_" ++ base) ?_
    rw [Emitter.module, hmodule, made, if_pos hw, Emitter.primary, hroutine, made, if_neg hno']
    rfl

end Emitter

/-! ## 2. Artifacts -/

/-- The emitter of a mapping of a batch. -/
def Batch.emitter (b : Batch) (c : Config) (p : MappingId × Mapping) : Emitter :=
  Emitter.ofArena b.arena c (RoutineNames.ofArena b.arena) p.1 p.2

namespace Artifact

/-- **The artifact of a mapping**, which has its base name: it holds the module of the mapping, or
the comment that names a text of it which cannot be spelled. -/
structure Renders (b : Batch) (c : Config) (p : MappingId × Mapping) (x : Artifact) : Prop where
  named : (RoutineNames.ofArena b.arena).base? p.1 = some x.name
  word : isWord x.name = true
  body : (∃ k, (b.emitter c p).module = .ok k ∧ x.body = .module k) ∨
    ∃ e : SpellingError, e.IsLexical ∧ (b.emitter c p).module = .error (.skip e) ∧
      x.body = .skipped p.2.key.text e.message

/-- A side artifact: it holds all routines that need nothing but a source, or the comment that names
a path of one of them which cannot be spelled. -/
structure RendersSide (b : Batch) (side : String × (List Dispatch → ArtifactBody)) (x : Artifact) :
    Prop where
  named : x.name = side.1
  body : (∃ ds, Dispatch.ofArena b.arena (RoutineNames.ofArena b.arena) = .ok ds ∧
      x.body = side.2 ds) ∨
    ∃ e : SpellingError, e.IsLexical ∧
      Dispatch.ofArena b.arena (RoutineNames.ofArena b.arena) = .error (.skip e) ∧
      x.body = .skipped side.1 e.message

/-- The artifact of a mapping fails as its module does if that stops the run. -/
theorem ofMapping_eq_error_iff {b : Batch} {c : Config} {p : MappingId × Mapping} {n : String} :
    ofMapping b.arena c (RoutineNames.ofArena b.arena) p = .error n ↔
      (b.emitter c p).module = .error (.malformed n) := by
  unfold ofMapping Batch.emitter
  cases (Emitter.ofArena b.arena c (RoutineNames.ofArena b.arena) p.1 p.2).module with
  | ok k => exact ⟨nofun, nofun⟩
  | error o =>
      cases o with
      | skip e => exact ⟨nofun, nofun⟩
      | malformed name =>
          exact ⟨fun h => by rw [Except.error.inj h], fun h => by cases h; rfl⟩

end Artifact

/-- The artifact of a mapping whose module fails only for its spelling. -/
theorem Artifact.renders_of_ofMapping {b : Batch} {c : Config} {p : MappingId × Mapping}
    {x : Artifact} (hget : b.arena.get? p.1 = some p.2)
    (hlex : Lexical (b.emitter c p).MakesName (b.emitter c p).module)
    (hx : ofMapping b.arena c (RoutineNames.ofArena b.arena) p = .ok x) :
    x.Renders b c p ∧ ∃ n, (RoutineNames.ofArena b.arena).routine p.1 = .ok n := by
  obtain ⟨base, hbase⟩ := RoutineNames.exists_base hget
  obtain rfl : x.name = base := (ofMapping_gives hbase x hx).1
  have hok : ∀ n, (b.emitter c p).module ≠ .error (.malformed n) := fun n hn => by
    rw [ofMapping_eq_error_iff.mpr hn] at hx
    cases hx
  obtain ⟨hword, hroutine⟩ := Emitter.routine_of_module hbase hok
  refine ⟨⟨hbase, hword, ?_⟩, _, hroutine⟩
  rcases ofMapping_cases hx with ⟨k, hk, hbody⟩ | ⟨e, he, hbody⟩
  · exact .inl ⟨k, hk, hbody⟩
  · exact .inr ⟨e, hlex _ he, he, hbody⟩

/-- The side artifacts that settings ask for. -/
def Config.sides (c : Config) : List (String × (List Dispatch → ArtifactBody)) :=
  (if c.registration then [("registration", .registration)] else [])
    ++ if c.dispatch then [("dispatch", .dispatch)] else []

/-- A side artifact that no name can stop. -/
theorem Artifact.side_cases {b : Batch} (asked : Bool) (name : String)
    (make : List Dispatch → ArtifactBody)
    (h : Lexical (fun _ => False) (Dispatch.ofArena b.arena (RoutineNames.ofArena b.arena))) :
    ∃ xs, side asked name ((Dispatch.ofArena b.arena (RoutineNames.ofArena b.arena)).map make) =
        .ok xs ∧
      List.Forall₂ (RendersSide b) (if asked then [(name, make)] else []) xs := by
  cases asked with
  | false => exact ⟨[], rfl, .nil⟩
  | true =>
      cases hds : Dispatch.ofArena b.arena (RoutineNames.ofArena b.arena) with
      | ok ds => exact ⟨_, rfl, .cons ⟨rfl, .inl ⟨ds, hds, rfl⟩⟩ .nil⟩
      | error o =>
          have ho := h o hds
          cases o with
          | skip e => exact ⟨_, rfl, .cons ⟨rfl, .inr ⟨e, ho, hds, rfl⟩⟩ .nil⟩
          | malformed n => exact ho.2.elim

/-- If the routines of an arena have proper names, only the path of a type can keep them out of a
side artifact. -/
theorem Dispatch.ofArena_lexical {a : Arena} {names : RoutineNames}
    (h : ∀ p ∈ a.entries, p.2.isPlain = true → ∃ n, names.routine p.1 = .ok n) :
    Lexical (fun _ => False) (Dispatch.ofArena a names) := by
  have hpath : ∀ path, Lexical (fun _ => False) (fullPath path) := fun path =>
    lexical_ofOption (Or.inr (Or.inl ⟨_, rfl⟩))
  refine lexical_mapM fun p hp => ?_
  obtain ⟨hmem, hplain⟩ := List.mem_filter.mp hp
  obtain ⟨n, hn⟩ := h p hmem hplain
  unfold ofMapping
  rw [hn]
  exact (hpath _).bind fun _ _ => (hpath _).bind fun _ _ => lexical_ok _

/-! ## 3. Runs -/

namespace Batch

variable {s : Schema} {c : Config}

theorem emitter_lexical {b : Batch} {p : MappingId × Mapping} (h : (b.emitter c p).Ready)
    (ha : b.arena.CallsAccepted) (hv : p.2.isValid = true) :
    Lexical (b.emitter c p).MakesName (b.emitter c p).module :=
  Emitter.module_lexical h ha hv

/-- The module of an accepted mapping fails for a text that cannot be spelled, or for a made name
that is no word. -/
theorem lexical_of_accepted {p : MappingId × Mapping} (hp : p ∈ (discover s c).accepted) :
    Lexical ((discover s c).emitter c p).MakesName ((discover s c).emitter c p).module := by
  obtain ⟨hget, hv⟩ := mem_accepted_iff.mp hp
  exact emitter_lexical (ready_of_isValid hget hv) (callsAccepted_discover s c) hv

/-- **All artifacts, or a name that is no word.** -/
theorem artifacts_cases (s : Schema) (c : Config) :
    (∃ modules sides, (discover s c).artifacts c = .ok (modules ++ sides) ∧
      List.Forall₂ (Artifact.Renders (discover s c) c) (discover s c).accepted modules ∧
      List.Forall₂ (Artifact.RendersSide (discover s c)) c.sides sides) ∨
    ∃ n, (discover s c).artifacts c = .error n ∧ isWord n = false ∧
      ∃ p ∈ (discover s c).accepted, ((discover s c).emitter c p).MakesName n := by
  rcases mapM_cases (Artifact.ofMapping (discover s c).arena c
    (RoutineNames.ofArena (discover s c).arena)) (discover s c).accepted with
    ⟨modules, hmodules, hall⟩ | ⟨p, hp, n, hn, herror⟩
  · have hrenders : ∀ p ∈ (discover s c).accepted, ∀ x, Artifact.ofMapping (discover s c).arena c
        (RoutineNames.ofArena (discover s c).arena) p = .ok x → x.Renders (discover s c) c p ∧
          ∃ n, (RoutineNames.ofArena (discover s c).arena).routine p.1 = .ok n := fun p hp x hx =>
      Artifact.renders_of_ofMapping (mem_accepted_iff.mp hp).1 (lexical_of_accepted hp) hx
    have hplain : Lexical (fun _ => False) (Dispatch.ofArena (discover s c).arena
        (RoutineNames.ofArena (discover s c).arena)) := by
      refine Dispatch.ofArena_lexical fun p hp hplain => ?_
      rw [Mapping.isPlain, Bool.and_eq_true, Bool.and_eq_true] at hplain
      have hp : p ∈ (discover s c).accepted := List.mem_filter.mpr ⟨hp, hplain.1.1⟩
      obtain ⟨x, -, hx⟩ := exists_of_mem_left hall hp
      exact (hrenders p hp x hx).2
    obtain ⟨registration, hreg, hregs⟩ :=
      Artifact.side_cases c.registration "registration" .registration hplain
    obtain ⟨dispatch, hdis, hdiss⟩ := Artifact.side_cases c.dispatch "dispatch" .dispatch hplain
    refine .inl ⟨modules, registration ++ dispatch, ?_, ?_, ?_⟩
    · unfold artifacts
      dsimp only
      rw [hmodules, hreg, hdis, ← List.append_assoc]
      rfl
    · exact ((List.forall₂_and_left _ _).mpr ⟨fun _ h => h, hall⟩).imp
        fun p x h => (hrenders p h.1 x h.2).1
    · exact List.rel_append hregs hdiss
  · obtain ⟨hword, hmakes⟩ := lexical_of_accepted hp _ (Artifact.ofMapping_eq_error_iff.mp hn)
    refine .inr ⟨n, ?_, hword, p, hp, hmakes⟩
    unfold artifacts
    dsimp only
    rw [herror]
    rfl

/-- An accepted mapping has its artifact in every run that yields artifacts. -/
theorem exists_renders {p : MappingId × Mapping} (hp : p ∈ (discover s c).accepted)
    {xs : List Artifact} (h : (discover s c).artifacts c = .ok xs) :
    ∃ x ∈ xs, x.Renders (discover s c) c p := by
  rcases artifacts_cases s c with ⟨modules, sides, hok, hmodules, -⟩ | ⟨n, herror, -⟩
  · obtain ⟨x, hx, hrenders⟩ := exists_of_mem_left hmodules hp
    rw [Except.ok.inj (h.symm.trans hok)]
    exact ⟨x, List.mem_append_left _ hx, hrenders⟩
  · rw [herror] at h
    cases h

end Batch

/-- **What a run yields that ends well**: the reports of the batch, an artifact for every accepted
mapping, in order, and behind them the side artifacts that are asked for. -/
structure Generation.Completes (s : Schema) (c : Config) (g : Generation) : Prop where
  diagnostics : g.diagnostics = (Batch.discover s c).allDiagnostics
  artifacts : ∃ modules sides, g.artifacts = modules ++ sides ∧
    List.Forall₂ (Artifact.Renders (Batch.discover s c) c) (Batch.discover s c).accepted modules ∧
    List.Forall₂ (Artifact.RendersSide (Batch.discover s c)) c.sides sides

/-- **A run on accepted settings and an accepted schema ends in one of two ways.** It yields an
artifact for every accepted mapping, with a comment for what cannot be spelled; or a name that was
made for an accepted mapping is no word, and it yields nothing at all. -/
theorem generate_cases {s : Schema} {c : Config} (hc : c.validate = .ok ())
    (hs : s.validate = .ok ()) :
    (∃ g, generate s c = .ok g ∧ g.Completes s c) ∨
    ∃ n, generate s c = .error (.malformedName n) ∧ isWord n = false ∧
      ∃ p ∈ (Batch.discover s c).accepted, ((Batch.discover s c).emitter c p).MakesName n := by
  unfold generate
  rw [hc, hs]
  rcases Batch.artifacts_cases s c with ⟨modules, sides, hok, hmodules, hsides⟩ |
    ⟨n, herror, hword, hmade⟩
  · refine .inl ⟨⟨modules ++ sides, (Batch.discover s c).allDiagnostics⟩, ?_, rfl, modules, sides,
      rfl, hmodules, hsides⟩
    dsimp only
    rw [hok]
    rfl
  · refine .inr ⟨n, ?_, hword, hmade⟩
    dsimp only
    rw [herror]
    rfl

/-- The artifact of a line with a text of an odd name is a comment, and the others are there. -/
theorem generate_order : ∃ g,
    Batch.sideConfig.validate = .ok () ∧ (Batch.lineSchema "two words").validate = .ok () ∧
    generate (Batch.lineSchema "two words") Batch.sideConfig = .ok g ∧
    g.Completes (Batch.lineSchema "two words") Batch.sideConfig ∧
    g.artifacts.map (fun x => (x.name, x.body.isSkipped)) =
      [("line_to_line", true), ("order_to_order", false), ("registration", false),
        ("dispatch", false)] := by
  have hc : Batch.sideConfig.validate = .ok () := rfl
  have hs : (Batch.lineSchema "two words").validate = .ok () :=
    ErrorTree.result_eq_ok_iff.mpr (by decide +kernel)
  have hreport : (generate (Batch.lineSchema "two words") Batch.sideConfig).toOption.map
      (fun g => g.artifacts.map fun x => (x.name, x.body.isSkipped)) =
      some [("line_to_line", true), ("order_to_order", false), ("registration", false),
        ("dispatch", false)] := by
    decide +kernel
  rcases generate_cases hc hs with ⟨g, hg, hcompletes⟩ | ⟨n, hn, -⟩
  · rw [hg] at hreport
    exact ⟨g, hc, hs, hg, hcompletes, Option.some.inj hreport⟩
  · rw [hn] at hreport
    cases hreport

/-- The name that stopped a run. -/
def GenerationError.malformed? {α : Type} : Except GenerationError α → Option String
  | .error (.malformedName n) => some n
  | _ => none

theorem GenerationError.malformed?_eq_some_iff {α : Type} {x : Except GenerationError α}
    {n : String} : malformed? x = some n ↔ x = .error (.malformedName n) := by
  unfold malformed?
  split <;> simp_all

/-- A page of users and a note, each with a view. The path of the page has a parameter. -/
def pageSchema : Schema :=
  Schema.ofLists
    [type "model::Page<User>" (some "view::Page"), type "model::Note" (some "view::Note"),
      type "view::Page" none, type "view::Note" none] []
where
  /-- A type with a title that may be mapped to another. -/
  type (path : String) (view : Option String) : TypeDecl :=
    ⟨path, none, false, true, [⟨"title", .scalar "String" false false, false, ⟨true, true⟩, []⟩],
      view.toList.map fun d => ⟨.mapTo d, none⟩, []⟩

/-- The name of the page cannot be spelled. It does not become a comment: nothing comes out, not even
for the note. -/
theorem generate_page : Config.standard.validate = .ok () ∧ pageSchema.validate = .ok () ∧
    (Batch.discover pageSchema Config.standard).accepted.map (fun p => p.2.key.text) =
      ["model::Note -> view::Note", "model::Page<User> -> view::Page"] ∧
    generate pageSchema Config.standard = .error (.malformedName "page<user>_to_page") := by
  refine ⟨rfl, ErrorTree.result_eq_ok_iff.mpr (by decide +kernel), by decide +kernel, ?_⟩
  exact GenerationError.malformed?_eq_some_iff.mp (by decide +kernel)

end TypeMapper
