import TypeMapper.Proofs.Batch.Literals
import TypeMapper.Proofs.Generation
import TypeMapper.Proofs.Routine.Capture
import TypeMapper.Proofs.Routine.Modules
/-!
# The names that the routines of a batch capture

Parameters keep the names that methods and resolvers give them, as long as these are not taken. The
names of the routine that count as taken are those of its source and its destination; those that it
binds for slots and links do not. So a parameter that goes by such a name is captured wherever it is
passed inside of a binding of it.

* `Batch.captures_of_artifact`: what each emitted routine passes, where, and when it captures none.
-/

namespace TypeMapper

namespace Batch

variable {b : Batch} {c : Config} {xs : List Artifact}

/-- **What the routines of a batch pass and capture.** A module that comes out is that of an accepted
mapping, whose routine passes names where the sites of the mapping are. -/
theorem captures_of_artifact (h : b.artifacts c = .ok xs) {x : Artifact} (hx : x ∈ xs)
    {k : MappingModule} (hk : x.body = .module k) :
    ∃ p ∈ b.accepted, (b.emitter c p).module = .ok k ∧ (b.emitter c p).Captures k.primary := by
  obtain ⟨p, hp, hmodule⟩ := exists_of_module h hx hk
  exact ⟨p, hp, hmodule, Emitter.primary_captures _ (Emitter.module_holds k hmodule).primary⟩

/-- An order whose tags are decorated, by a method that takes a parameter beside the tag. -/
def tagSchema (parameter : String) : Schema :=
  Schema.ofLists
    [⟨"shop::Order", none, false, true, [tags [⟨.useMethod "decorate", none⟩]],
        [⟨.mapTo "view::Order", none⟩],
        [⟨"decorate", [⟨"tag", text, false⟩, ⟨parameter, text, false⟩], text, false⟩]⟩,
      ⟨"view::Order", none, false, true, [tags []], [], []⟩] []
where
  /-- A string. -/
  text : TypeRef := .scalar "String" false false
  /-- The tags. -/
  tags (directives : List DirectiveEntry) : Property :=
    ⟨"tags", .collection .list text false, false, ⟨true, true⟩, directives⟩

/-- The artifacts for the order. -/
def tagArtifacts (parameter : String) : Except String (List Artifact) :=
  (discover (tagSchema parameter) Config.standard).artifacts Config.standard

/-- The parameters that the routines in artifacts take, and what these pass. -/
def passings (xs : List Artifact) : List (List String × List Passing) :=
  xs.filterMap fun x => x.body.primary?.map fun r => (r.parameters.map Prod.fst, r.literal.passings)

/-- The mark is passed beside each tag. -/
theorem captures_of_order : ∃ xs x k p, tagArtifacts "mark" = .ok xs ∧ x ∈ xs ∧
    x.body = .module k ∧ p ∈ (discover (tagSchema "mark") Config.standard).accepted ∧
    ((discover (tagSchema "mark") Config.standard).emitter Config.standard p).Captures k.primary ∧
    k.primary.literal.passings = [⟨{"element"}, "mark"⟩] ∧ k.primary.CapturesNothing := by
  have hreport : (tagArtifacts "mark").toOption.map passings =
      some [(["mark"], [⟨{"element"}, "mark"⟩])] := by
    decide +kernel
  obtain ⟨xs, hxs, hpassings⟩ := Option.map_eq_some_iff.mp hreport
  have hxs := eq_ok_of_toOption hxs
  obtain ⟨x, hx, k, hk, hi⟩ := exists_of_mem_primaries (hpassings ▸ List.mem_singleton_self _)
  obtain ⟨p, hp, -, hcaptures⟩ := captures_of_artifact hxs hx hk
  have hpassed : k.primary.literal.passings = [⟨{"element"}, "mark"⟩] := congrArg Prod.snd hi
  refine ⟨xs, x, k, p, hxs, hx, hk, hp, hcaptures, hpassed, ?_⟩
  rw [PrimaryRoutine.CapturesNothing, hpassed]
  decide

/-- A parameter may go by the name of the elements. It keeps this name, and what the routine passes
beside each tag is the tag again. -/
theorem element_captured_of_order : ∃ xs x k, tagArtifacts "element" = .ok xs ∧ x ∈ xs ∧
    x.body = .module k ∧ k.primary.parameters.map Prod.fst = ["element"] ∧
    k.primary.literal.passings = [⟨{"element"}, "element"⟩] ∧ ¬ k.primary.CapturesNothing := by
  have hreport : (tagArtifacts "element").toOption.map passings =
      some [(["element"], [⟨{"element"}, "element"⟩])] := by
    decide +kernel
  obtain ⟨xs, hxs, hpassings⟩ := Option.map_eq_some_iff.mp hreport
  obtain ⟨x, hx, k, hk, hi⟩ := exists_of_mem_primaries (hpassings ▸ List.mem_singleton_self _)
  rw [Prod.mk.injEq] at hi
  obtain ⟨hparameters, hpassed⟩ := hi
  refine ⟨xs, x, k, eq_ok_of_toOption hxs, hx, hk, hparameters, hpassed, ?_⟩
  rw [PrimaryRoutine.CapturesNothing, hpassed]
  decide

end Batch

end TypeMapper
