import TypeMapper.Proofs.Batch.Async
import TypeMapper.Proofs.Batch.Functions
import TypeMapper.Proofs.Generation
import TypeMapper.Proofs.Routine.BareNames
import TypeMapper.Proofs.Routine.Imports
/-!
# The imports of a batch

The paths that are foreseen for a module are those that the mappings mention which its own mapping
reaches. The parameters of its routines come from helpers of these mappings, and the literals in its
projection are of them, so nothing else is spelled.

* `Arena.mentioned`: the paths that are foreseen.
* `Batch.exists_of_mem_entryParameters`: a parameter is one of a helper of a mapping that is
  reached.
* `Batch.foresees_of_accepted`: what is foreseen suffices for an accepted mapping.
* `MappingModule.ImportsFrom`: the imports of a module, what they are for, and when two of them end
  in one name.
* `Batch.importsFrom_of_artifact`: the modules of a batch.
* `MappingModule.HidesNames`, `Batch.hidesNames_of_artifact`: which of the other names that a module
  writes its imports hide.
-/

namespace TypeMapper

open TypePath (anchored ident isForeign)

/-! ## 1. What is foreseen -/

/-- The paths that the mappings mention which one reaches. -/
def Arena.mentioned (a : Arena) (id : MappingId) : List String :=
  ((a.reachable id).filterMap a.get?).flatMap Mapping.mentions

theorem Arena.mem_mentioned_iff {a : Arena} {id : MappingId} {q : String} :
    q ∈ a.mentioned id ↔ ∃ t k, a.Reaches id t ∧ a.get? t = some k ∧ q ∈ k.mentions := by
  unfold mentioned
  simp only [List.mem_flatMap, List.mem_filterMap, mem_reachable_iff]
  constructor
  · rintro ⟨k, ⟨t, ht, hk⟩, hq⟩
    exact ⟨t, k, ht, hk, hq⟩
  · rintro ⟨t, k, ht, hk, hq⟩
    exact ⟨k, ⟨t, ht, hk⟩, hq⟩

/-- **The paths that are foreseen** suffice for a mapping of which the parameters are those of
helpers of mappings that it reaches. -/
theorem Emitter.foresees_mentioned {a : Arena} {id : MappingId} {m : Mapping}
    (hm : a.get? id = some m) (hparameters : ∀ x ∈ m.entryParameters, ∃ t k, a.Reaches id t ∧
      a.get? t = some k ∧ ∃ y ∈ k.localParameters, y.key = x.key) (c : Config)
    (names : RoutineNames) : (Emitter.ofArena a c names id m).Foresees (a.mentioned id) where
  mentions q hq := Arena.mem_mentioned_iff.mpr ⟨id, m, .refl, hm, hq⟩
  parameters x hx q hq := by
    obtain ⟨t, k, ht, hk, y, hy, hkey⟩ := hparameters x hx
    refine Arena.mem_mentioned_iff.mpr ⟨t, k, ht, hk, ?_⟩
    have hty : y.ty = x.ty := congrArg Prod.snd hkey
    simp only [Mapping.mentions, List.mem_cons, List.mem_append]
    exact .inr (.inr (.inr (List.mem_flatMap.mpr ⟨y, hy, hty ▸ hq⟩)))
  destinations t k ht hk := Arena.mem_mentioned_iff.mpr
    ⟨t, k, ht, hk, List.mem_cons_of_mem _ List.mem_cons_self⟩

namespace Batch

variable {s : Schema} {c : Config} {id t : MappingId} {m n : Mapping}

/-- The phases behind resolution keep what helpers take. -/
theorem get?_of_resolved (h : (s.resolved c).get? t = some n) :
    ∃ k, (discover s c).arena.get? t = some k ∧ k.localParameters = n.localParameters := by
  obtain ⟨k, hk⟩ := Arena.get?_of_lt_size ((size_discover s c).symm ▸ Arena.lt_size_of_get? h)
  obtain ⟨n', ds, hn', -, hkn⟩ := exists_parameterized hk
  obtain rfl := Option.some.inj (h.symm.trans hn')
  refine ⟨k, hk, ?_⟩
  generalize (s.resolved c).entryParameters t = l at hkn
  subst hkn
  rfl

/-- **A parameter is one of a helper** of a mapping that is reached. -/
theorem exists_of_mem_entryParameters (hm : (discover s c).arena.get? id = some m)
    {x : EntryParameter} (hx : x ∈ m.entryParameters) : ∃ t k, (discover s c).arena.Reaches id t ∧
      (discover s c).arena.get? t = some k ∧ ∃ y ∈ k.localParameters, y.key = x.key := by
  obtain ⟨n, ds, -, -, hmn⟩ := exists_parameterized hm
  have hparameters : m.entryParameters = ((s.resolved c).entryParameters id).parameters := by
    generalize (s.resolved c).entryParameters id = l at hmn
    subst hmn
    rfl
  obtain ⟨t, k, y, ht, hk, hy, hkey⟩ := Arena.exists_of_mem_entryParameters (hparameters ▸ hx)
  obtain ⟨l, hl, hlocal⟩ := get?_of_resolved hk
  rw [Arena.Reaches, ← delegates_discover] at ht
  exact ⟨t, l, ht, hl, y, hlocal ▸ hy, hkey⟩

/-- **What is foreseen for an accepted mapping** suffices for its module. -/
theorem foresees_of_accepted {p : MappingId × Mapping} (hp : p ∈ (discover s c).accepted) :
    ((discover s c).emitter c p).Foresees ((discover s c).arena.mentioned p.1) := by
  obtain ⟨hget, -⟩ := mem_accepted_iff.mp hp
  exact Emitter.foresees_mentioned hget (fun _ => exists_of_mem_entryParameters hget) c
    (RoutineNames.ofArena (discover s c).arena)

end Batch

/-! ## 2. Imports -/

/-- **The imports of a module**, for which some paths were foreseen; `settings` are the imports that
the settings ask for. -/
structure MappingModule.ImportsFrom (qs settings : List String) (k : MappingModule) : Prop where
  /-- The module begins with its imports, those for its own code first. -/
  written : ∃ body, k.code = words ["pub", "mod", k.name] ++ braces
    ((k.imports.flatMap fun p => words ["use"] ++ p ++ op ";") ++
      (k.extraImports.flatMap fun p =>
        op "#" ++ brackets (words ["allow"] ++ parens (words ["unused_imports"])) ++
          words ["use"] ++ p ++ op ";") ++ body) ++
    words ["pub", "use", k.name] ++ op "::" ++ op "*" ++ op ";"
  /-- For its own code it imports the paths of a list, in order. -/
  imports : List.Forall₂ (fun q code => Code.path? q = some code) (importPaths k.paths) k.imports
  /-- The others are those of the settings, in order. -/
  asked : List.Forall₂ (fun text tree => Code.importTree? text = some tree) settings k.extraImports
  /-- The list has no path twice. -/
  nodup : (importPaths k.paths).Nodup
  /-- No two different paths of the list end in the same text. -/
  apart : ∀ q ∈ importPaths k.paths, ∀ r ∈ importPaths k.paths, q ≠ r → ident q ≠ ident r
  /-- A path is in the list exactly if it is spelled by a bare name somewhere in the module. -/
  bare : ∀ q, q ∈ importPaths k.paths ↔ ∃ name, k.Spells (.imported q name)
  /-- The name is the last one of the path. -/
  named : ∀ q name, k.Spells (.imported q name) → spelledName (ident q) = .ok name
  /-- What is spelled is a path that was foreseen, bare or in full. -/
  foreseen : ∀ p, k.Spells p → ∃ q ∈ qs, (Scope.ofPaths qs).path q = .ok p
  /-- Two different paths are imported that end in one name exactly if the settings ask for one of
  them, or if the names are different texts that are spelled in the same way. -/
  twice : ∀ n, k.ImportsTwice n ↔
    (∃ p r, p ≠ r ∧ (p, n) ∈ k.importItems ∧ (r, n) ∈ MappingModule.askedItems settings) ∨
    ∃ q ∈ qs, ∃ t ∈ qs, k.TakesBare qs q n ∧ k.TakesBare qs t n ∧
      ident (anchored q) ≠ ident (anchored t) ∧ ∃ p r, p ≠ r ∧
        (Code.path? (anchored q)).map Code.text = some p ∧
        (Code.path? (anchored t)).map Code.text = some r

theorem MappingModule.importsFrom_of_spells {qs settings : List String} {k : MappingModule}
    (himports : importCodes (importPaths k.paths) = .ok k.imports)
    (hextra : settings.mapM extraImport = .ok k.extraImports)
    (hspells : (Scope.ofPaths qs).Spells qs k.paths) : k.ImportsFrom qs settings := by
  have hforeseen : ∀ p, k.Spells p → ∃ q ∈ qs, (Scope.ofPaths qs).path q = .ok p := fun p hp =>
    hspells p (mem_paths_iff.mpr hp)
  have hpath {q name : String} (h : k.Spells (.imported q name)) :
      ∃ q' ∈ qs, (Scope.ofPaths qs).path q' = .ok (.imported q name) := hforeseen _ h
  have hasked : List.Forall₂ (fun text tree => Code.importTree? text = some tree) settings
      k.extraImports := gives_mapM (fun _ _ => gives_ofOption _ _) _ hextra
  constructor
  case written =>
    refine ⟨k.primary.code ++ (k.sequence.map SequenceRoutine.code).getD [] ++
      (k.projection.map Projection.code).getD [], ?_⟩
    simp only [MappingModule.code, List.append_assoc]
  case imports => exact gives_mapM (fun _ _ => gives_ofOption _ _) _ himports
  case asked => exact hasked
  case nodup => exact (Text.sorted_distinct _).imp fun {_ _} hlt => String.ne_of_lt hlt
  case apart =>
    intro q hq r hr hne heq
    obtain ⟨n, hn⟩ := mem_importPaths_iff.mp hq
    obtain ⟨l, hl⟩ := mem_importPaths_iff.mp hr
    obtain ⟨q', hq', hqs⟩ := hpath hn
    obtain ⟨r', hr', hrs⟩ := hpath hl
    exact hne (Scope.eq_of_imported hq' hr' hqs hrs heq)
  case bare => exact fun q => mem_importPaths_iff
  case named =>
    intro q name h
    obtain ⟨q', -, hqs⟩ := hpath h
    obtain ⟨rfl, hname, -⟩ := Scope.path_eq_imported_iff.mp hqs
    exact hname
  case foreseen => exact hforeseen
  case twice => exact fun n => importsTwice_iff hspells hasked

namespace Batch

variable {s : Schema} {c : Config} {xs : List Artifact}

/-- **The modules of a batch** import what they spell bare and what the settings ask for. One name
ends two paths exactly if the settings ask for one of them, or if it has two texts. -/
theorem importsFrom_of_artifact (h : (discover s c).artifacts c = .ok xs) {x : Artifact}
    (hx : x ∈ xs) {k : MappingModule} (hk : x.body = .module k) :
    ∃ p ∈ (discover s c).accepted, ((discover s c).emitter c p).module = .ok k ∧
      k.ImportsFrom ((discover s c).arena.mentioned p.1) c.extraImports := by
  obtain ⟨p, hp, hmodule⟩ := exists_of_module h hx hk
  have hspells := Emitter.module_spells (foresees_of_accepted hp) k hmodule
  have hholds := Emitter.module_holds k hmodule
  exact ⟨p, hp, hmodule,
    MappingModule.importsFrom_of_spells hholds.imports hholds.extraImports hspells⟩

/-- A cart with a label that a method makes of two amounts; there are types of money in two
places. -/
def shopSchema : Schema :=
  Schema.ofLists
    [⟨"shop::Cart", none, false, true, [label [⟨.useMethod "tagged", none⟩]],
        [⟨.mapTo "view::Ticket", none⟩],
        [⟨"tagged", [⟨"label", text, false⟩, ⟨"price", .object "shop::Money" false, false⟩,
          ⟨"paid", .object "bank::Money" false, false⟩], text, false⟩]⟩,
      ⟨"view::Ticket", none, false, true, [label []], [], []⟩,
      ⟨"shop::Money", none, false, true, [], [], []⟩,
      ⟨"bank::Money", none, false, true, [], [], []⟩] []
where
  /-- A string. -/
  text : TypeRef := .scalar "String" false false
  /-- A label with directives. -/
  label (directives : List DirectiveEntry) : Property :=
    ⟨"label", text, false, ⟨true, true⟩, directives⟩

/-- What is read off the modules among artifacts. -/
def ofModules {β : Type} (f : MappingModule → β) (xs : List Artifact) : List β :=
  xs.filterMap fun x => match x.body with
    | .module k => some (f k)
    | _ => none

/-- What is read off the only module of a batch. -/
theorem exists_of_ofModules {β : Type} {f : MappingModule → β} {i : β}
    (h : ((discover s c).artifacts c).toOption.map (ofModules f) = some [i]) :
    ∃ xs, (discover s c).artifacts c = .ok xs ∧ ∃ x ∈ xs, ∃ k, x.body = .module k ∧ f k = i := by
  obtain ⟨xs, hxs, hmodules⟩ := Option.map_eq_some_iff.mp h
  obtain ⟨x, hx, hi⟩ := List.mem_filterMap.mp (hmodules ▸ List.mem_singleton_self i)
  refine ⟨xs, eq_ok_of_toOption hxs, x, hx, ?_⟩
  split at hi
  · rename_i k hk
    exact ⟨k, hk, Option.some.inj hi⟩
  · cases hi

/-- The cart and the ticket are imported, and the two types of money are spelled in full. -/
theorem importsFrom_of_shop : ∃ xs x k p,
    (discover shopSchema Config.standard).artifacts Config.standard = .ok xs ∧ x ∈ xs ∧
    x.body = .module k ∧ p ∈ (discover shopSchema Config.standard).accepted ∧
    k.ImportsFrom ((discover shopSchema Config.standard).arena.mentioned p.1) [] ∧
    importPaths k.paths = ["crate::shop::Cart", "crate::view::Ticket"] ∧
    k.primary.parameters.map (fun q => Code.text q.2.code) =
      ["crate :: shop :: Money", "crate :: bank :: Money"] := by
  have hreport : ((discover shopSchema Config.standard).artifacts Config.standard).toOption.map
      (ofModules fun k => (importPaths k.paths, k.primary.parameters.map fun q =>
        Code.text q.2.code)) =
      some [(["crate::shop::Cart", "crate::view::Ticket"],
        ["crate :: shop :: Money", "crate :: bank :: Money"])] := by
    decide +kernel
  obtain ⟨xs, hxs, x, hx, k, hk, hi⟩ := exists_of_ofModules hreport
  obtain ⟨p, hp, -, himports⟩ := importsFrom_of_artifact hxs hx hk
  rw [Prod.mk.injEq] at hi
  exact ⟨xs, x, k, p, hxs, hx, hk, hp, himports, hi⟩

/-- A type with a label that may be mapped to another one. -/
def labelSchema (source destination : String) : Schema :=
  Schema.ofLists
    [⟨source, none, false, true, [shopSchema.label []], [⟨.mapTo destination, none⟩], []⟩,
      ⟨destination, none, false, true, [shopSchema.label []], [], []⟩] []

/-- Settings that ask for the import of a cart. -/
def otherCart : Config := { Config.standard with extraImports := ["other::Cart"] }

/-- **Two carts are imported**, one for the code of the module and one that the settings ask for. So
are two items of which the schema writes one with a blank in front of its name. -/
theorem cart_imported_twice :
    (∃ xs x k, (discover (labelSchema "shop::Cart" "view::Ticket") otherCart).artifacts otherCart =
        .ok xs ∧ x ∈ xs ∧ x.body = .module k ∧ ("crate :: shop :: Cart", "Cart") ∈ k.importItems ∧
      ("other :: Cart", "Cart") ∈ k.importItems ∧ k.ImportsTwice "Cart") ∧
    ∃ xs x k, (discover (labelSchema "a:: Item" "b::Item") Config.standard).artifacts
        Config.standard = .ok xs ∧ x ∈ xs ∧ x.body = .module k ∧
      ("crate :: a :: Item", "Item") ∈ k.importItems ∧
      ("crate :: b :: Item", "Item") ∈ k.importItems ∧ k.ImportsTwice "Item" := by
  have hcarts : ((discover (labelSchema "shop::Cart" "view::Ticket") otherCart).artifacts
      otherCart).toOption.map (ofModules fun k => (k.importItems.contains
        ("crate :: shop :: Cart", "Cart"), k.importItems.contains ("other :: Cart", "Cart"))) =
      some [(true, true)] := by
    decide +kernel
  have hitems : ((discover (labelSchema "a:: Item" "b::Item") Config.standard).artifacts
      Config.standard).toOption.map (ofModules fun k => (k.importItems.contains
        ("crate :: a :: Item", "Item"), k.importItems.contains ("crate :: b :: Item", "Item"))) =
      some [(true, true)] := by
    decide +kernel
  constructor
  · obtain ⟨xs, hxs, x, hx, k, hk, hi⟩ := exists_of_ofModules hcarts
    simp only [Prod.mk.injEq, List.contains_iff_mem] at hi
    exact ⟨xs, x, k, hxs, hx, hk, hi.1, hi.2, _, _, by decide, hi.1, hi.2⟩
  · obtain ⟨xs, hxs, x, hx, k, hk, hi⟩ := exists_of_ofModules hitems
    simp only [Prod.mk.injEq, List.contains_iff_mem] at hi
    exact ⟨xs, x, k, hxs, hx, hk, hi.1, hi.2, _, _, by decide, hi.1, hi.2⟩

end Batch

/-! ## 3. Hidden names -/

/-- **Which names the imports of a module hide**, for which some paths were foreseen; `key` has the
types of its mapping. -/
structure MappingModule.HidesNames (qs : List String) (key : MappingKey) (k : MappingModule) : Prop
    where
  /-- A name is hidden exactly if the module writes it and spells a path that ends in it, begins at
  no foreign crate, and is the only one foreseen that ends so. -/
  hides_iff : ∀ n, k.Hides n ↔ n ∈ k.bareNames ∧ ∃ q ∈ qs, k.Names (Scope.ofPaths qs) q ∧
    spelledName (ident (anchored q)) = .ok n ∧ isForeign (anchored q) = false ∧
    ∀ r ∈ qs, ident (anchored r) = ident (anchored q) → anchored r = anchored q
  /-- The module spells the types of its mapping. -/
  source : k.Names (Scope.ofPaths qs) key.source
  destination : k.Names (Scope.ofPaths qs) key.destination
  /-- It always writes the name of results. -/
  result : "Result" ∈ k.bareNames

namespace Batch

variable {s : Schema} {c : Config} {xs : List Artifact}

/-- **The modules of a batch** hide a name that they write exactly if it is that of a path which no
other one clashes with. -/
theorem hidesNames_of_artifact (h : (discover s c).artifacts c = .ok xs) {x : Artifact}
    (hx : x ∈ xs) {k : MappingModule} (hk : x.body = .module k) :
    ∃ p ∈ (discover s c).accepted, ((discover s c).emitter c p).module = .ok k ∧
      k.HidesNames ((discover s c).arena.mentioned p.1) p.2.key := by
  obtain ⟨p, hp, hmodule⟩ := exists_of_module h hx hk
  have hspells := Emitter.module_spells (foresees_of_accepted hp) k hmodule
  have hprimary := Emitter.primary_parts _ (Emitter.module_holds k hmodule).primary
  refine ⟨p, hp, hmodule, fun n => MappingModule.hides_iff hspells, ?_, ?_, ?_⟩
  · exact ⟨_, .inl (.inl rfl), hprimary.source⟩
  · exact ⟨_, .inl (.inr (.inl rfl)), hprimary.destination⟩
  · exact List.mem_append_left _ (List.mem_append_left _ List.mem_cons_self)

/-- A type of exams that may be mapped to a grade. -/
def examSchema (name : String) : Schema :=
  Schema.ofLists
    [⟨"exam::" ++ name, none, false, true, [points], [⟨.mapTo "view::Grade", none⟩], []⟩,
      ⟨"view::Grade", none, false, true, [points], [], []⟩] []
where
  /-- The points. -/
  points : Property := ⟨"points", .scalar "u32" true false, true, ⟨true, true⟩, []⟩

/-- The imports of a module, the names by which they are spelled, and the other names in it. -/
def importReport (k : MappingModule) : List String × List String × List String :=
  (importPaths k.paths, k.importedNames, k.bareNames)

/-- A test and its grade are imported, and nothing is hidden. -/
theorem hidesNames_of_test : ∃ xs x k p,
    (discover (examSchema "Test") Config.standard).artifacts Config.standard = .ok xs ∧ x ∈ xs ∧
    x.body = .module k ∧ p ∈ (discover (examSchema "Test") Config.standard).accepted ∧
    k.HidesNames ((discover (examSchema "Test") Config.standard).arena.mentioned p.1) p.2.key ∧
    importPaths k.paths = ["crate::exam::Test", "crate::view::Grade"] ∧ ∀ n, ¬ k.Hides n := by
  have hreport : ((discover (examSchema "Test") Config.standard).artifacts
      Config.standard).toOption.map (ofModules importReport) =
      some [(["crate::exam::Test", "crate::view::Grade"],
        ["Test", "Grade", "Grade", "Test", "Grade"],
        ["Result", "Into", "Option", "IntoIterator", "Result", "Iterator"])] := by
    decide +kernel
  obtain ⟨xs, hxs, x, hx, k, hk, hi⟩ := exists_of_ofModules hreport
  obtain ⟨p, hp, -, hhides⟩ := hidesNames_of_artifact hxs hx hk
  simp only [importReport, Prod.mk.injEq] at hi
  obtain ⟨hpaths, himported, hbare⟩ := hi
  have hdisjoint : ∀ n ∈ k.importedNames, n ∉ k.bareNames := by
    rw [himported, hbare]
    decide
  exact ⟨xs, x, k, p, hxs, hx, hk, hp, hhides, hpaths, fun n hn =>
    hdisjoint n (MappingModule.mem_importedNames_iff.mpr hn.2) hn.1⟩

/-- A result is imported as well. Its import goes by the name in which the type of the routine
begins. -/
theorem result_hidden_of_exam : ∃ xs x k,
    (discover (examSchema "Result") Config.standard).artifacts Config.standard = .ok xs ∧ x ∈ xs ∧
    x.body = .module k ∧ importPaths k.paths = ["crate::exam::Result", "crate::view::Grade"] ∧
    ident "crate::exam::Result" = "Result" ∧ "Result" ∈ k.bareNames ∧ k.Hides "Result" := by
  have hreport : ((discover (examSchema "Result") Config.standard).artifacts
      Config.standard).toOption.map (ofModules importReport) =
      some [(["crate::exam::Result", "crate::view::Grade"],
        ["Result", "Grade", "Grade", "Result", "Grade"],
        ["Result", "Into", "Option", "IntoIterator", "Result", "Iterator"])] := by
    decide +kernel
  obtain ⟨xs, hxs, x, hx, k, hk, hi⟩ := exists_of_ofModules hreport
  simp only [importReport, Prod.mk.injEq] at hi
  obtain ⟨hpaths, himported, hbare⟩ := hi
  have hwritten : "Result" ∈ k.bareNames := hbare ▸ List.mem_cons_self
  refine ⟨xs, x, k, hxs, hx, hk, hpaths, by decide +kernel, hwritten, hwritten, ?_⟩
  rw [← MappingModule.mem_importedNames_iff, himported]
  exact List.mem_cons_self

end Batch

end TypeMapper
