import TypeMapper.Proofs.Outcome
import TypeMapper.Proofs.Routine.Frames
import TypeMapper.Routine.Conversion
/-!
# What is spelled shows nothing

Names, types and paths get into the tokens of a routine by being spelled, and some names are made. A
spelled name is no keyword, and a made one has an underscore in it, so nothing of this is a mark.

* `spelledName_inert`, `made_inert`, `Emitter.parameter_inert`, `RoutineNames.routine_inert`: names.
* `Place.inert_borrow`, `inert_read`: places of inert names.
* `Scope.path_silent`, `Scope.type_silent`: paths and types.
-/

namespace TypeMapper

open Code

/-! ## 1. Names -/

/-- A text that is read as a name is a word, and no keyword. -/
theorem Grammar.not_keyword_of_phrase {s name : String}
    (h : phrase? (fun _ => Grammar.name) s = some [.ident name]) : name ∉ keywords := by
  obtain ⟨ts, -, hwhole⟩ := Option.bind_eq_some_iff.mp h
  have hread : Grammar.name ts = some ([.ident name], []) := by
    unfold whole at hwhole
    split at hwhole
    · rename_i c hread
      exact Option.some.inj hwhole ▸ hread
    · cases hwhole
  unfold Grammar.name wordSuch at hread
  cases ts with
  | nil => cases hread
  | cons t rest =>
      cases t with
      | ident w =>
          dsimp only at hread
          split at hread
          · rename_i hw
            obtain ⟨hname, -⟩ := Prod.mk.inj (Option.some.inj hread)
            obtain rfl := Token.ident.inj (List.cons.inj hname).1
            simpa using hw
          · cases hread
      | literal | punct | group => cases hread

theorem Code.not_keyword_of_name? {text name : String} (h : name? text = some name) :
    name ∉ Grammar.keywords := by
  rcases Option.or_eq_some_iff.mp h with h | ⟨-, h⟩ <;>
  · dsimp only at h
    split at h
    · rename_i w hphrase
      exact Option.some.inj h ▸ Grammar.not_keyword_of_phrase hphrase
    · cases h

/-- **A spelled name** is inert, for the words that leave or wait are keywords. -/
theorem spelledName_inert (text : String) :
    Gives (fun name => Inert (words [name])) (spelledName text) :=
  (gives_ofOption _ _).imp fun name hname => inert_words_iff.mpr fun hmem =>
    Code.not_keyword_of_name? hname (by
      have hkeywords : ∀ w ∈ ["async", "await", "return", "super"], w ∈ Grammar.keywords := by decide
      exact hkeywords name hmem)

/-- A name with an underscore is none of the words that leave or wait. -/
theorem inert_of_underscore {name : String} (h : '_' ∈ name.toList) : Inert (words [name]) := by
  refine inert_words_iff.mpr fun hmem => ?_
  have hnone : ∀ w ∈ ["async", "await", "return", "super"], '_' ∉ w.toList := by decide
  exact hnone name hmem h

theorem made_inert {name : String} (h : '_' ∈ name.toList) :
    Gives (fun n => Inert (words [n])) (made name) := by
  unfold made
  split
  · exact gives_ok (inert_of_underscore h)
  · exact gives_error _

theorem RoutineNames.routine_inert (n : RoutineNames) (id : MappingId) :
    Gives (fun name => Inert (words [name])) (n.routine id) :=
  (gives_true _).bind fun base _ => made_inert (by simp)

theorem Emitter.parameter_inert (e : Emitter) (key : String × TypeRef) :
    Gives (fun name => Inert (words [name])) (e.parameter key) := by
  unfold parameter
  split
  · exact spelledName_inert _
  · exact gives_error _

/-! ## 2. Places -/

namespace Place

variable {p : Place}

theorem inert_field (h : Inert p.code) {name : String} (hname : Inert (words [name]))
    (optional : Bool) : Inert (field p name optional).code :=
  (h.append inert_dot).append hname

theorem inert_position (h : Inert p.code) (index : Nat) (optional : Bool) :
    Inert (position p index optional).code :=
  (h.append inert_dot).append (show Inert [.literal (toString index)] from rfl)

theorem inert_borrow (h : Inert p.code) : Inert p.borrow := by
  cases p with
  | binding name o => exact h
  | field base name o => exact inert_ampersand.append h
  | position base index o => exact inert_ampersand.append h

theorem inert_read (h : Inert p.code) (byValue : Bool) : Inert (p.read byValue) := by
  cases byValue with
  | false =>
      have hclone : Inert (op "." ++ words ["clone"] ++ parens []) := rfl
      show Inert (p.code ++ op "." ++ words ["clone"] ++ parens [])
      rw [List.append_assoc, List.append_assoc]
      exact h.append hclone
  | true =>
      cases p with
      | binding name o => exact (show Inert (op "*") from rfl).append h
      | field base name o => exact h
      | position base index o => exact h

end Place

theorem Subject.inert_code {s : Subject} (h : Inert s.place.code) : Inert s.code := by
  cases s with
  | borrowed p => exact Place.inert_borrow h
  | present p byValue =>
      exact (show Inert (op "&" ++ words ["Some"]) from rfl).append
        (inert_group _ (Place.inert_read h byValue))

theorem Items.inert_code {i : Items} (h : Inert i.place.code) : Inert i.code := by
  refine (h.append (show Inert (Value.call "iter" []) from rfl)).append ?_
  cases i.flattened <;> rfl

theorem RoutineCall.inert_given {c : RoutineCall} (hinput : Inert c.input.code)
    (harguments : ∀ a ∈ c.arguments, Inert (words [a])) : Inert c.given :=
  (Place.inert_borrow hinput).append
    (inert_flatMap fun a ha => inert_cons_iff.mpr ⟨rfl, harguments a ha⟩)

/-! ## 3. Paths and types -/

namespace Scope

theorem path_silent (s : Scope) (path : String) : Gives (fun p => Silent p.code) (s.path path) := by
  unfold Scope.path
  dsimp only
  split
  · exact (gives_ofOption _ _).map fun c hc f => .spelled (.inr hc)
  · exact (spelledName_inert _).map fun name hname => hname.silent

/-- A type constructor with what it is applied to. -/
theorem silent_applied {head c : Code} (h : Silent c) (hhead : Inert head) :
    Silent (head ++ angles c) :=
  hhead.silent.append (((show Inert (op "<") from rfl).silent.append h).append
    (show Inert (op ">") from rfl).silent)

theorem silent_orAbsent {t : TypeSpelling} (h : Silent t.code) (nullable : Bool) :
    Silent (orAbsent nullable t).code := by
  cases nullable with
  | false => exact h
  | true => exact silent_applied h rfl

/-- Two parts with a comma behind the first. -/
theorem silent_comma {c d : Code} (hc : Silent c) (hd : Silent d) : Silent (c ++ op "," ++ d) :=
  (hc.append inert_comma.silent).append hd

mutual

/-- **The spelling of a type** shows nothing outside of the texts of the schema. -/
theorem type_silent (s : Scope) : ∀ t : TypeRef, Gives (fun u => Silent u.code) (s.type t)
  | .scalar name _ n => (gives_ofOption _ _).map fun c hc =>
      silent_orAbsent (t := .scalar c) (fun f => .spelled (.inl hc)) n
  | .object p n => (s.path_silent p).map fun c hc => silent_orAbsent (t := .named c) hc n
  | .collection .array e n => (type_silent s e).map fun c hc =>
      silent_orAbsent (t := .boxedSlice c) (silent_applied (hc.group .bracket) rfl) n
  | .collection .list e n => (type_silent s e).map fun c hc =>
      silent_orAbsent (t := .vector c) (silent_applied hc rfl) n
  | .collection .sequence e n => (type_silent s e).map fun c hc =>
      silent_orAbsent (t := .vector c) (silent_applied hc rfl) n
  | .map kind k v n => (type_silent s k).bind fun k hk => (type_silent s v).bind fun v hv =>
      gives_ok (silent_orAbsent (t := .map kind k v)
        (silent_applied (silent_comma hk hv) (by cases kind <;> rfl)) n)
  | .tuple es n => (types_silent s es).map fun es hes =>
      silent_orAbsent (t := .tuple es) (hes.group .paren) n

theorem types_silent (s : Scope) : ∀ ts : List TypeRef,
    Gives (fun us => Silent (TypeSpelling.codes us)) (s.types ts)
  | [] => gives_ok (show Inert [] from rfl).silent
  | t :: ts => (type_silent s t).bind fun _ ht => (types_silent s ts).bind fun _ hts =>
      gives_ok (silent_comma ht hts)

end

end Scope

end TypeMapper
