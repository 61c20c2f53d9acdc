import TypeMapper.Proofs.Arena.Lookup
import TypeMapper.Routine.Names
import TypeMapper.Routine.Scope
/-!
# Errors of spelling

An artifact may always fail because a text of the schema cannot be spelled in the language, and the
run because a name made of such texts is no word. Any other error means that the mapping was not
what it should be. An emission that can fail in these ways only is closed under all the ways to put
emissions together.

* `SpellingError.IsLexical`: the error is about the spelling of a text.
* `Emit.Lexical`: an emission has no other errors, and its malformed names are among given ones;
  `Emit.Lexical.bind`, `map`, `mapM`.
* `Scope.type_lexical`, `RoutineNames.routine_lexical`: types and names of routines.
-/

namespace TypeMapper

/-! ## 1. Emissions -/

/-- The error is about a text that is no name, no path or no type. -/
def SpellingError.IsLexical (e : SpellingError) : Prop :=
  (∃ t, e = .invalidName t) ∨ (∃ t, e = .invalidPath t) ∨ ∃ t, e = .invalidType t

/-- The obstacle is about the spelling of a text, or about a made name that is no word; `N` are the
names that may be made. -/
def Obstacle.IsLexical (N : String → Prop) : Obstacle → Prop
  | .skip e => e.IsLexical
  | .malformed name => isWord name = false ∧ N name

namespace Emit

variable {α β : Type} {N : String → Prop}

/-- The error that costs the artifact, if there is one. -/
def skipped? : Emit α → Option SpellingError
  | .error (.skip e) => some e
  | _ => none

theorem skipped?_eq_some_iff {x : Emit α} {e : SpellingError} :
    x.skipped? = some e ↔ x = .error (.skip e) := by
  cases x with
  | ok a => exact ⟨nofun, nofun⟩
  | error o =>
      cases o with
      | skip e' =>
          refine ⟨fun h => ?_, fun h => ?_⟩
          · rw [Option.some.inj h]
          · rw [Obstacle.skip.inj (Except.error.inj h)]
            rfl
      | malformed name => exact ⟨nofun, nofun⟩

/-- Every obstacle in the way of an emission is about the spelling of a text. -/
def Lexical (N : String → Prop) (x : Emit α) : Prop := ∀ o, x = .error o → o.IsLexical N

theorem lexical_ok (a : α) : Lexical N (.ok a) := fun _ h => nomatch h

theorem lexical_skip {e : SpellingError} (h : e.IsLexical) :
    Lexical N (.error (.skip e) : Emit α) := by
  rintro _ ⟨⟩
  exact h

theorem lexical_ofOption {x : Option α} {e : SpellingError} (h : e.IsLexical) :
    Lexical N (ofOption x e) := by
  cases x with
  | none => exact lexical_skip h
  | some a => exact lexical_ok a

theorem Lexical.bind {x : Emit α} {f : α → Emit β} (hx : Lexical N x)
    (hf : ∀ a, x = .ok a → Lexical N (f a)) : Lexical N (x >>= f) := by
  cases x with
  | error o => exact fun e he => hx e (congrArg Except.error (Except.error.inj he))
  | ok a => exact hf a rfl

/-- A value that is there is not missed. -/
theorem lexical_bind_ofOption {x : Option α} {a : α} (h : x = some a) {e : SpellingError}
    {f : α → Emit β} (hf : Lexical N (f a)) : Lexical N (ofOption x e >>= f) := by
  rw [h]
  exact hf

theorem Lexical.map {x : Emit α} (hx : Lexical N x) (f : α → β) : Lexical N (x.map f) := by
  cases x with
  | error o => exact fun e he => hx e (congrArg Except.error (Except.error.inj he))
  | ok a => exact lexical_ok (f a)

theorem lexical_mapM {f : α → Emit β} {xs : List α} (h : ∀ x ∈ xs, Lexical N (f x)) :
    Lexical N (xs.mapM f) := by
  induction xs with
  | nil => exact lexical_ok []
  | cons x xs ih =>
      rw [List.mapM_cons]
      refine (h x List.mem_cons_self).bind fun b _ => ?_
      exact (ih fun y hy => h y (List.mem_cons_of_mem x hy)).bind fun bs _ => lexical_ok (b :: bs)

end Emit

open Emit

variable {N : String → Prop}

/-! ## 2. Names, paths and types -/

theorem spelledName_lexical (text : String) : Lexical N (spelledName text) :=
  lexical_ofOption (Or.inl ⟨text, rfl⟩)

theorem made_lexical {name : String} (h : N name) : Lexical N (made name) := by
  unfold made
  split
  · exact lexical_ok name
  · rename_i hw
    rintro _ ⟨⟩
    exact ⟨Bool.eq_false_iff.mpr hw, h⟩

namespace Scope

theorem path_lexical (s : Scope) (path : String) : Lexical N (s.path path) := by
  unfold Scope.path
  dsimp only
  split
  · exact (lexical_ofOption (Or.inr (Or.inl ⟨_, rfl⟩))).map _
  · exact (spelledName_lexical _).map _

mutual

/-- The spelling of a type fails only for a text in it. -/
theorem type_lexical (s : Scope) : ∀ t : TypeRef, Lexical N (s.type t)
  | .scalar name _ _ => (lexical_ofOption (Or.inr (Or.inr ⟨name, rfl⟩))).map _
  | .object p _ => (s.path_lexical p).map _
  | .collection .array e _ => (type_lexical s e).map _
  | .collection .list e _ => (type_lexical s e).map _
  | .collection .sequence e _ => (type_lexical s e).map _
  | .map _ k v _ =>
    (type_lexical s k).bind fun _ _ => (type_lexical s v).bind fun _ _ => lexical_ok _
  | .tuple es _ => (types_lexical s es).map _

theorem types_lexical (s : Scope) : ∀ ts : List TypeRef, Lexical N (s.types ts)
  | [] => lexical_ok []
  | t :: rest =>
    (type_lexical s t).bind fun _ _ => (types_lexical s rest).bind fun _ _ => lexical_ok _

end

end Scope

/-! ## 3. Names of routines -/

namespace RoutineNames

variable {a : Arena} {id : MappingId} {m : Mapping}

/-- Every mapping of an arena has its base name. -/
theorem exists_base (h : a.get? id = some m) : ∃ base, (ofArena a).base? id = some base := by
  have hlt : id < (ofArena a).bases.length := by
    rw [length_bases]
    exact Arena.lt_size_of_get? h
  exact ⟨_, List.getElem?_eq_getElem hlt⟩

theorem moduleName_lexical (h : a.get? id = some m)
    (hN : ∀ base, (ofArena a).base? id = some base → N base) :
    Lexical N ((ofArena a).moduleName id) := by
  obtain ⟨base, hbase⟩ := exists_base h
  exact lexical_bind_ofOption hbase (made_lexical (hN base hbase))

theorem routine_lexical (h : a.get? id = some m)
    (hN : ∀ base, (ofArena a).base? id = some base → N ("map_" ++ base)) :
    Lexical N ((ofArena a).routine id) := by
  obtain ⟨base, hbase⟩ := exists_base h
  exact lexical_bind_ofOption hbase (made_lexical (hN base hbase))

theorem many_lexical (h : a.get? id = some m)
    (hN : ∀ base, (ofArena a).base? id = some base → N ("map_many_" ++ base)) :
    Lexical N ((ofArena a).many id) := by
  obtain ⟨base, hbase⟩ := exists_base h
  exact lexical_bind_ofOption hbase (made_lexical (hN base hbase))

theorem projection_lexical (h : a.get? id = some m)
    (hN : ∀ base, (ofArena a).base? id = some base → N ("project_" ++ base)) :
    Lexical N ((ofArena a).projection id) := by
  obtain ⟨base, hbase⟩ := exists_base h
  exact lexical_bind_ofOption hbase (made_lexical (hN base hbase))

end RoutineNames

end TypeMapper
