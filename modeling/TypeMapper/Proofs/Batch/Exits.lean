import TypeMapper.Proofs.Batch.Async
import TypeMapper.Proofs.Batch.Literals
import TypeMapper.Proofs.Batch.Settings
import TypeMapper.Proofs.Generation
import TypeMapper.Proofs.Routine.Shown
/-!
# The closures in the routines of a batch

The flags by which the closures of a routine are chosen go by the strategies of the mapping and by
the asynchrony of its callees, and so does the flag of the routine itself. In every module that
comes out they are right: what leaves a closure or waits in it stands where that is granted.

* `MappingModule.Grants`: the routines of a module grant what is needed in them.
* `Batch.grants_of_artifact`: the modules of a batch.
-/

namespace TypeMapper

/-- **The routines of a module grant what is needed in them.** -/
structure MappingModule.Grants (k : MappingModule) : Prop where
  /-- What is needed is what the tokens of the routine show: a mark for each need, in order, each in
  the closure or block that is its frame or, if there is none, in the body of the function. -/
  written : k.primary.Shown
  /-- What leaves with an error or without an entry, or waits, stands where that is granted. -/
  placed : ∀ n ∈ k.primary.needs, n.1.grants n.2 = true
  /-- Nothing of this stands in a closure that comes to its expression as it is. -/
  notPlain : ∀ n ∈ k.primary.needs, ∀ ofOption, n.1 ≠ .plain ofOption
  /-- The projection needs nothing. -/
  projection : ∀ r ∈ k.projection, ∀ f, r.body.needs f = []

namespace Batch

variable {s : Schema} {c : Config} {xs : List Artifact}

/-- **The modules of a batch** have closures that grant what is needed in them. -/
theorem grants_of_artifact (h : (discover s c).artifacts c = .ok xs) {x : Artifact} (hx : x ∈ xs)
    {k : MappingModule} (hk : x.body = .module k) :
    ∃ p ∈ (discover s c).accepted, ((discover s c).emitter c p).module = .ok k ∧ k.Grants := by
  obtain ⟨p, hp, hmodule⟩ := exists_of_module h hx hk
  obtain ⟨hget, -⟩ := mem_accepted_iff.mp hp
  have hparts := Emitter.module_holds k hmodule
  have hplaced : k.primary.literal.Placed (.routine k.primary.isAsync) :=
    Emitter.primary_placed (fun t ht hs => ((asyncByNeed_discover s c).isAsync_iff_judged hget c
      (RoutineNames.ofArena (discover s c).arena)).mpr ⟨t, ht, hs⟩) _ hparts.primary
  have hneeds := k.primary.grants_needs hplaced
  have hshown := Emitter.primary_shown _ hparts.primary
  refine ⟨p, hp, hmodule, hshown, hneeds, fun n hn ofOption heq => ?_, fun r hr =>
    Emitter.projection_needsNothing r (hparts.projection r hr)⟩
  have hgranted := hneeds n hn
  rw [heq] at hgranted
  cases hgranted

/-- A playlist with tracks by name, some of which are missing; the title of a track is fetched. -/
def playlistSchema : Schema :=
  Schema.ofLists
    [⟨"app::Playlist", none, false, true, [part "tracks" (byName "app::Track" true) []],
        [⟨.mapTo "view::Playlist", none⟩], []⟩,
      ⟨"app::Track", none, false, true, [part "title" text [⟨.useMethod "fetched", none⟩]],
        [⟨.mapTo "view::Track", none⟩], [⟨"fetched", [⟨"title", text, false⟩], text, true⟩]⟩,
      ⟨"view::Playlist", none, false, true, [part "tracks" (byName "view::Track" false) []],
        [], []⟩,
      ⟨"view::Track", none, false, true, [part "title" text []], [], []⟩] []
where
  /-- A string. -/
  text : TypeRef := .scalar "String" false false
  /-- A map of objects by name, some of which may be missing. -/
  byName (path : String) (nullable : Bool) : TypeRef :=
    .map .hash text (.object path nullable) false
  /-- A property with directives. -/
  part (name : String) (ty : TypeRef) (directives : List DirectiveEntry) : Property :=
    ⟨name, ty, false, ⟨true, true⟩, directives⟩

/-- What the routines in artifacts need. -/
def routineNeeds (xs : List Artifact) : List (List (Frame × Need)) :=
  xs.filterMap fun x => x.body.primary?.map PrimaryRoutine.needs

/-- The routine refuses an absent playlist. The tracks are joined: each one is awaited in a block of
its own and may be dropped there, and the routine awaits them all. -/
theorem grants_of_playlist : ∃ xs x k p,
    (discover playlistSchema droppingConfig).artifacts droppingConfig = .ok xs ∧ x ∈ xs ∧
    x.body = .module k ∧ p ∈ (discover playlistSchema droppingConfig).accepted ∧ k.Grants ∧
    k.primary.needs =
      [(.routine true, .refusal), (.block true, .await), (.block true, .failure),
        (.block true, .noEntry), (.routine true, .await), (.routine true, .failure)] := by
  have hreport : ((discover playlistSchema droppingConfig).artifacts droppingConfig).toOption.map
      routineNeeds =
      some [[(.routine true, .refusal), (.block true, .await), (.block true, .failure),
          (.block true, .noEntry), (.routine true, .await), (.routine true, .failure)],
        [(.routine true, .refusal), (.routine true, .await)]] := by
    decide +kernel
  obtain ⟨xs, hxs, hneeds⟩ := Option.map_eq_some_iff.mp hreport
  have hxs := eq_ok_of_toOption hxs
  obtain ⟨x, hx, k, hk, hi⟩ := exists_of_mem_primaries (hneeds ▸ List.mem_cons_self)
  obtain ⟨p, hp, -, hgrants⟩ := grants_of_artifact hxs hx hk
  exact ⟨xs, x, k, p, hxs, hx, hk, hp, hgrants, hi⟩

end Batch

end TypeMapper
