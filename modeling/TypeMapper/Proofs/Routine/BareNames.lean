import TypeMapper.Proofs.Routine.ImportedNames
/-!
# Names that imports hide

Beside the paths that it imports a module writes other names bare: those of the standard types and
traits in the fixed text of its routines, and those in the types of scalars. Clashes are looked for
among the paths of objects only, so an import may go by one of these names and hide it.

* `Token.openWords`: the words of a row that may begin a path.
* `TypeSpelling.bareNames`, `Value.bareNames`, `MappingModule.bareNames`: the names that are written
  bare for something else than an imported path.
* `MappingModule.Hides`: an import of the module goes by one of them.
* `MappingModule.hides_iff`: when this is so.
-/

namespace TypeMapper

open TypePath (anchored ident isForeign)

/-! ## 1. Words that begin a path -/

namespace Token

/-- The character that is joint with what follows. -/
def joint? : Token → Option Char
  | punct c true => some c
  | _ => none

/-- What follows goes on a path or is a lifetime: the token ends a double colon, of which `before`
is the first half, or it is the mark of a lifetime. -/
def goesOn (before : Option Char) : Token → Bool
  | punct ':' _ => before == some ':'
  | punct '\x27' _ => true
  | _ => false

mutual

/-- The words in a token that may begin a path; `behind` says that one goes on there. -/
def openWords (behind : Bool) : Token → List String
  | ident name => if behind then [] else [name]
  | group _ inner => rowOpenWords none false inner
  | _ => []

/-- The words in a row that may begin a path. -/
def rowOpenWords (before : Option Char) (behind : Bool) : List Token → List String
  | [] => []
  | t :: rest => openWords behind t ++ rowOpenWords t.joint? (t.goesOn before) rest

end

end Token

/-- The words in a row of tokens that may begin a path. -/
def Code.openWords (code : Code) : List String := Token.rowOpenWords none false code

/-! ## 2. Names that are written bare -/

namespace TypeSpelling

mutual

/-- The names that a type is written with, but for the paths of objects. -/
def bareNames : TypeSpelling → List String
  | scalar c => Code.openWords c
  | named _ => []
  | boxedSlice e => "Box" :: bareNames e
  | vector e => "Vec" :: bareNames e
  | map _ k v => bareNames k ++ bareNames v
  | tuple es => bareNamesOf es
  | optional t => "Option" :: bareNames t

/-- The names that types are written with. -/
def bareNamesOf : List TypeSpelling → List String
  | [] => []
  | t :: rest => bareNames t ++ bareNamesOf rest

end

end TypeSpelling

/-- The name of the type that elements are gathered into. -/
def CollectionKind.bareNames : CollectionKind → List String
  | .array => ["Box"]
  | .list => ["Vec"]
  | .sequence => []

namespace Value

mutual

/-- The names of types and traits that an expression is written with, but for the paths of
objects. -/
def bareNames : Value → List String
  | standard => ["Default"]
  | present v => bareNames v
  | orStandard v => bareNames v
  | required v => bareNames v
  | resolve input output _ _ _ _ => input.bareNames ++ output.bareNames
  | delegate _ _ _ _ _ isAsync => if isAsync then ["Box"] else []
  | cases _ _ v otherwise => bareNames v ++ bareNames otherwise
  | mapped _ _ v => bareNames v
  | chained _ _ v => bareNames v
  | copies _ _ target => target.bareNames
  | each _ _ v target g =>
    bareNames v ++ target.bareNames ++ if g = .fallible then ["Result"] else []
  | entries _ _ _ k v _ g =>
    bareNames k ++ bareNames v ++ if g = .fallible then ["Result", "Option"] else []
  | tuple vs => bareNamesOf vs
  | inlined _ _ _ _ v => bareNames v
  | construct _ fields isOpen => fieldBareNames fields ++ if isOpen then ["Default"] else []
  | _ => []

/-- The names that expressions are written with. -/
def bareNamesOf : List Value → List String
  | [] => []
  | v :: rest => bareNames v ++ bareNamesOf rest

/-- The names that fields are written with. -/
def fieldBareNames : List (String × Value) → List String
  | [] => []
  | (_, v) :: rest => bareNames v ++ fieldBareNames rest

end

end Value

/-- The names that a routine is written with: a source that may be absent is taken as anything that
an option comes from. -/
def PrimaryRoutine.bareNames (r : PrimaryRoutine) : List String :=
  "Result" :: (if r.sourceByValue then [] else ["Into", "Option"])
    ++ (r.parameters.flatMap fun p => p.2.bareNames) ++ r.literal.bareNames

/-- The names that the routine over a sequence is written with. -/
def SequenceRoutine.bareNames (r : SequenceRoutine) : List String :=
  "IntoIterator" :: "Result" :: (if r.isAsync then [] else ["Iterator"])
    ++ r.parameters.flatMap fun p => p.2.bareNames

namespace MappingModule

/-- **The names that a module writes bare** for something else than an imported path. -/
def bareNames (k : MappingModule) : List String :=
  k.primary.bareNames ++ (k.sequence.map SequenceRoutine.bareNames).getD []
    ++ (k.projection.map fun r => r.body.bareNames).getD []

/-- The names that the imported paths of a module are spelled by. -/
def importedNames (k : MappingModule) : List String :=
  k.paths.filterMap fun
    | .imported _ name => some name
    | .qualified _ => none

/-- **An import hides the name**: it goes by the name, and the module writes that bare for something
else. -/
def Hides (k : MappingModule) (n : String) : Prop :=
  n ∈ k.bareNames ∧ ∃ q, k.Spells (.imported q n)

theorem mem_importedNames_iff {k : MappingModule} {n : String} :
    n ∈ k.importedNames ↔ ∃ q, k.Spells (.imported q n) := by
  unfold importedNames
  rw [List.mem_filterMap]
  constructor
  · rintro ⟨p, hp, hn⟩
    cases p with
    | imported q name =>
        obtain rfl := Option.some.inj hn
        exact ⟨q, mem_paths_iff.mp hp⟩
    | qualified code => cases hn
  · rintro ⟨q, h⟩
    exact ⟨_, mem_paths_iff.mpr h, rfl⟩

/-- The path is one that the module spells, bare or in full. -/
def Names (k : MappingModule) (s : Scope) (q : String) : Prop := ∃ p, k.Spells p ∧ s.path q = .ok p

/-- **When an import hides a name** that the module writes: it spells a path that begins at no
foreign crate and is the only one foreseen that ends in the name. -/
theorem hides_iff {k : MappingModule} {qs : List String}
    (hspells : (Scope.ofPaths qs).Spells qs k.paths) {n : String} :
    k.Hides n ↔ n ∈ k.bareNames ∧ ∃ q ∈ qs, k.Names (Scope.ofPaths qs) q ∧
      spelledName (ident (anchored q)) = .ok n ∧ isForeign (anchored q) = false ∧
      ∀ r ∈ qs, ident (anchored r) = ident (anchored q) → anchored r = anchored q := by
  refine and_congr_right fun _ => ⟨?_, ?_⟩
  · rintro ⟨path, hpath⟩
    obtain ⟨q, hq, -, hbare⟩ := (spells_imported_iff hspells).mp hpath
    exact ⟨q, hq, hbare⟩
  · rintro ⟨q, hq, hbare⟩
    exact ⟨_, (spells_imported_iff hspells).mpr ⟨q, hq, rfl, hbare⟩⟩

end MappingModule

end TypeMapper
