import TypeMapper.Proofs.Routine.Imports
/-!
# The names of imports

A module imports paths for its own code and whatever the settings ask for besides. Of an import with
braces every item counts for itself. Clashes are looked for among the paths that were foreseen, by
the text behind the last double colon, and the imports of the settings are not among them.

* `Code.importItems`: the items that an import leads to, each with its full path and its last name.
* `MappingModule.TakesBare`: a path that was foreseen is spelled by a name alone.
* `MappingModule.spells_imported_iff`: these are the paths that are imported.
* `MappingModule.ImportsTwice`, `importsTwice_iff`: when two different paths are imported that end
  in one name.
-/

namespace TypeMapper

open TypePath (anchored ident isForeign)

/-! ## 1. The items of an import -/

namespace Token

/-- The item that a path leads to, which stands behind `base`. The word self stands for the path in
front of it, and without a path there is no item. -/
def itemAt (base : Code) : Option Code → List (Code × String)
  | none => []
  | some front =>
    let path := match front with
      | [.ident "self"] => base.dropLast.dropLast
      | _ => base ++ front
    match path.getLast? with
    | some (.ident name) => [(path, name)]
    | _ => []

mutual

/-- The items in braces behind a path. -/
def itemsIn (path : Code) : Token → List (Code × String)
  | group _ inner => rowItems path (some []) inner
  | _ => []

/-- The items of a row behind the path `base`. The path of the item that the row is at goes on with
`front`; there is none once the item has been read. -/
def rowItems (base : Code) (front : Option Code) : List Token → List (Code × String)
  | [] => itemAt base front
  | t :: rest =>
    match t with
    | punct ',' _ => itemAt base front ++ rowItems base (some []) rest
    | punct '*' _ => rowItems base none rest
    | ident "as" => itemAt base front ++ rowItems base none rest
    | group _ _ => itemsIn (base ++ front.getD []) t ++ rowItems base none rest
    | _ => rowItems base (front.map (· ++ [t])) rest

end

end Token

/-- The items that an import leads to: the full path of each as it is printed, and its last name. -/
def Code.importItems (tree : Code) : List (String × String) :=
  (Token.rowItems [] (some []) tree).map fun p => (Code.text p.1, p.2)

/-- Braces hold items of their own, a new name changes nothing, and a star leads to no item. -/
example : (Code.importTree? "a::{B, c::{self, D as E}, f::*}").map Code.importItems =
    some [("a :: B", "B"), ("a :: c", "c"), ("a :: c :: D", "D")] := by decide +kernel

namespace MappingModule

variable {k : MappingModule} {qs settings : List String} {path n : String}

/-! ## 2. Imports for the code of a module -/

/-- **A path that was foreseen is spelled by a name alone**: the module spells it, its last name is
this one, it begins at no foreign crate, and no other path that was foreseen ends in the same
text. -/
def TakesBare (k : MappingModule) (qs : List String) (q n : String) : Prop :=
  (∃ p, k.Spells p ∧ (Scope.ofPaths qs).path q = .ok p) ∧ spelledName (ident (anchored q)) = .ok n ∧
    isForeign (anchored q) = false ∧
    ∀ r ∈ qs, ident (anchored r) = ident (anchored q) → anchored r = anchored q

/-- **The paths that are imported** are those that are spelled by a name alone. -/
theorem spells_imported_iff (hspells : (Scope.ofPaths qs).Spells qs k.paths) :
    k.Spells (.imported path n) ↔ ∃ q ∈ qs, path = anchored q ∧ k.TakesBare qs q n := by
  constructor
  · intro hpath
    obtain ⟨q, hq, hs⟩ := hspells _ (mem_paths_iff.mpr hpath)
    obtain ⟨rfl, hname, hfree, hforeign⟩ := Scope.path_eq_imported_iff.mp hs
    refine ⟨q, hq, rfl, ⟨_, hpath, hs⟩, hname, hforeign, fun r hr heq => ?_⟩
    by_contra hne
    exact hfree (Scope.mem_clashes_iff.mpr ⟨r, hr, q, hq, hne, heq, rfl⟩)
  · rintro ⟨q, hq, rfl, ⟨p, hp, hs⟩, hname, hforeign, honly⟩
    have hfree : ident (anchored q) ∉ (Scope.ofPaths qs).clashes := fun hclash => by
      obtain ⟨r, hr, t, ht, hne, hrq, htq⟩ := Scope.mem_clashes_iff.mp hclash
      exact hne ((honly r hr hrq).trans (honly t ht htq).symm)
    have himported := Scope.path_eq_imported_iff.mpr ⟨rfl, hname, hfree, hforeign⟩
    obtain rfl := Except.ok.inj (hs.symm.trans himported)
    exact hp

/-- The items that a module imports for its own code. -/
def ownItems (k : MappingModule) : List (String × String) :=
  k.paths.filterMap fun
    | .imported path name => (Code.path? path).map fun code => (Code.text code, name)
    | .qualified _ => none

theorem mem_ownItems_iff (hspells : (Scope.ofPaths qs).Spells qs k.paths) :
    (path, n) ∈ k.ownItems ↔ ∃ q ∈ qs, k.TakesBare qs q n ∧
      (Code.path? (anchored q)).map Code.text = some path := by
  unfold ownItems
  rw [List.mem_filterMap]
  constructor
  · rintro ⟨p, hp, hitem⟩
    cases p with
    | qualified code => cases hitem
    | imported full name =>
        obtain ⟨code, hcode, heq⟩ := Option.map_eq_some_iff.mp hitem
        obtain ⟨rfl, rfl⟩ := Prod.mk.inj heq
        obtain ⟨q, hq, rfl, hbare⟩ := (spells_imported_iff hspells).mp (mem_paths_iff.mp hp)
        exact ⟨q, hq, hbare, by rw [hcode]; rfl⟩
  · rintro ⟨q, hq, hbare, hpath⟩
    obtain ⟨code, hcode, rfl⟩ := Option.map_eq_some_iff.mp hpath
    have himported := (spells_imported_iff hspells).mpr ⟨q, hq, rfl, hbare⟩
    exact ⟨_, mem_paths_iff.mpr himported, congrArg (Option.map _) hcode⟩

/-! ## 3. Imports with one last name -/

/-- The items of the imports that settings ask for. -/
def askedItems (settings : List String) : List (String × String) :=
  settings.flatMap fun text => ((Code.importTree? text).map Code.importItems).getD []

/-- The items of the imports that the settings ask for are those of their texts. -/
theorem extraItems_eq
    (h : List.Forall₂ (fun text tree => Code.importTree? text = some tree) settings k.extraImports) :
    k.extraImports.flatMap Code.importItems = askedItems settings := by
  unfold askedItems
  generalize k.extraImports = trees at h ⊢
  induction h with
  | nil => rfl
  | cons htree _ ih => rw [List.flatMap_cons, List.flatMap_cons, ih, htree]; rfl

/-- All items that a module imports. -/
def importItems (k : MappingModule) : List (String × String) :=
  k.ownItems ++ k.extraImports.flatMap Code.importItems

/-- **Two different paths are imported that end in one name.** -/
def ImportsTwice (k : MappingModule) (n : String) : Prop :=
  ∃ p r, p ≠ r ∧ (p, n) ∈ k.importItems ∧ (r, n) ∈ k.importItems

/-- **Two different paths are imported that end in one name** exactly if the settings ask for one of
them, or if both were foreseen and their last names are different texts for the one name. -/
theorem importsTwice_iff (hspells : (Scope.ofPaths qs).Spells qs k.paths)
    (hextra : List.Forall₂ (fun text tree => Code.importTree? text = some tree) settings
      k.extraImports) :
    k.ImportsTwice n ↔
      (∃ p r, p ≠ r ∧ (p, n) ∈ k.importItems ∧ (r, n) ∈ askedItems settings) ∨
      ∃ q ∈ qs, ∃ t ∈ qs, k.TakesBare qs q n ∧ k.TakesBare qs t n ∧
        ident (anchored q) ≠ ident (anchored t) ∧ ∃ p r, p ≠ r ∧
          (Code.path? (anchored q)).map Code.text = some p ∧
          (Code.path? (anchored t)).map Code.text = some r := by
  have hitem {p : String} : (p, n) ∈ k.importItems ↔
      (p, n) ∈ k.ownItems ∨ (p, n) ∈ askedItems settings := by
    rw [importItems, List.mem_append, extraItems_eq hextra]
  constructor
  · rintro ⟨p, r, hne, hp, hr⟩
    rcases hitem.mp hr with hrown | hrasked
    · rcases hitem.mp hp with hpown | hpasked
      · -- both are imported for the code of the module
        obtain ⟨q, hq, hqbare, hqtext⟩ := (mem_ownItems_iff hspells).mp hpown
        obtain ⟨t, ht, htbare, httext⟩ := (mem_ownItems_iff hspells).mp hrown
        refine .inr ⟨q, hq, t, ht, hqbare, htbare, fun heq => hne ?_, p, r, hne, hqtext, httext⟩
        rw [htbare.2.2.2 q hq heq, httext] at hqtext
        exact (Option.some.inj hqtext).symm
      · exact .inl ⟨r, p, hne.symm, hr, hpasked⟩
    · exact .inl ⟨p, r, hne, hp, hrasked⟩
  · rintro (⟨p, r, hne, hp, hr⟩ | ⟨q, hq, t, ht, hqbare, htbare, -, p, r, hne, hp, hr⟩)
    · exact ⟨p, r, hne, hp, hitem.mpr (.inr hr)⟩
    · exact ⟨p, r, hne, hitem.mpr (.inl ((mem_ownItems_iff hspells).mpr ⟨q, hq, hqbare, hp⟩)),
        hitem.mpr (.inl ((mem_ownItems_iff hspells).mpr ⟨t, ht, htbare, hr⟩))⟩

end MappingModule

end TypeMapper
