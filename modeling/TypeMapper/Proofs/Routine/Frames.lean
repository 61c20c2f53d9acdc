import TypeMapper.Code.Grammar
import TypeMapper.Mapping.Basic
import TypeMapper.Routine.Value
/-!
# What tokens show

A failed call, an absent value that is refused and an entry that is dropped leave what is right
around them, and an await suspends it. All of this is read off the tokens: a mark stands for each of
it, and what is right around a mark is the closure that is opened last, or the routine.

* `Frame`, `Need`: what is right around an expression, and what is needed there; `Frame.grants`.
* `Frame.bodyCode`: the tokens of the closures.
* `RoutineCall`: a call of the routine of a mapping; `RoutineCall.code` are its tokens.
* `Code.Inert`: there is no mark in a row, no closure, and nothing of another module.
* `Code.Shows`: the JUDGEMENT that a row shows what is needed and called in it. The types and paths
  of a schema stand in it as they are; in all the rest there is nothing but what is shown.
-/

namespace TypeMapper

/-! ## 1. Frames -/

/-- What an expression needs of the function, closure or block right around it. -/
inductive Need where
  /-- To leave with the error of a call: `?`. -/
  | failure
  /-- To leave with an error of its own: `return Err(..)`. -/
  | refusal
  /-- To leave without an entry: `return Ok(None)`. -/
  | noEntry
  /-- To wait for a call: `.await`. -/
  | await
  deriving DecidableEq, Repr

/-- The function, closure or block right around an expression. -/
inductive Frame where
  /-- A routine, which comes to a destination or an error. -/
  | routine (isAsync : Bool)
  /-- A function or closure that comes to the expression, or to an option of it. -/
  | plain (ofOption : Bool)
  /-- A closure of a result, perhaps of an option. -/
  | result (ofOption : Bool)
  /-- An asynchronous block of a result, perhaps of an option. -/
  | block (ofOption : Bool)
  deriving DecidableEq, Repr

namespace Frame

/-- **What a frame grants**: only a result can be left with an error, only one of an option without
an entry, and only what is asynchronous waits. -/
def grants : Frame → Need → Bool
  | routine isAsync, .await => isAsync
  | routine _, n => n != .noEntry
  | plain _, _ => false
  | result ofOption, .noEntry => ofOption
  | result _, n => n != .await
  | block ofOption, .noEntry => ofOption
  | block _, _ => true

/-- The frame is a closure. -/
def isClosure : Frame → Bool
  | routine _ => false
  | _ => true

/-- The type of errors. -/
def errorType : Code := rooted ["mapforge", "MappingError"]

/-- The tokens of what a closure comes to: its body or an option of it. -/
def presentCode (ofOption : Bool) (body : Code) : Code :=
  if ofOption then words ["Some"] ++ parens body else body

/-- The tokens of the type in a result; an option is one of a pair. -/
def presentType (ofOption : Bool) : Code :=
  if ofOption then
    words ["Option"] ++ op "<" ++ parens (words ["_"] ++ op "," ++ words ["_"]) ++ op ">"
  else words ["_"]

/-- The tokens behind the parameters of a closure. -/
def bodyCode : Frame → Code → Code
  | routine _, body => body
  | plain ofOption, body => presentCode ofOption body
  | result ofOption, body =>
    op "->" ++ words ["Result"] ++ op "<" ++ presentType ofOption ++ op "," ++ errorType ++ op ">"
      ++ braces (words ["Ok"] ++ parens (presentCode ofOption body))
  | block ofOption, body =>
    words ["async", "move"] ++ braces (words ["Ok"] ++ op "::" ++ op "<" ++ words ["_"] ++ op ","
      ++ errorType ++ op ">" ++ parens (presentCode ofOption body))

/-- A block of an option says what it results in, and a closure of a result does so itself. -/
example : Code.text ((block true).bodyCode (words ["x"])) =
    "async move \x7b Ok :: < _ , :: mapforge :: MappingError > (Some (x)) \x7d" := by
  decide +kernel

example : Code.text ((result false).bodyCode (words ["x"])) =
    "-> Result < _ , :: mapforge :: MappingError > \x7b Ok (x) \x7d" := by
  decide +kernel

end Frame

/-! ## 2. Calls -/

/-- A call of the routine of a mapping, with the names of the arguments behind the input. -/
structure RoutineCall where
  target : MappingId
  routine : String
  /-- The routine is in the same module. -/
  own : Bool
  input : Place
  arguments : List String
  isAsync : Bool
  deriving DecidableEq, Repr, Inhabited

namespace RoutineCall

/-- What a call is given: the input, and the arguments behind it in order. -/
def given (c : RoutineCall) : Code :=
  c.input.borrow ++ c.arguments.flatMap fun a => [.punct ',' false, .ident a]

/-- **The tokens of a call**: the routine, which is found in the module around if it is in another
one, and in parentheses what it is given. -/
def code (c : RoutineCall) : Code :=
  (if c.own then [] else words ["super"] ++ op "::") ++ [.ident c.routine, .group .paren c.given]

example : Code.text (code ⟨3, "map_left_to_left", false,
      .field (.binding "source" false) "left" false, ["currency", "rate"], false⟩) =
    "super :: map_left_to_left (& source . left , currency , rate)" := by
  decide +kernel

end RoutineCall

/-! ## 3. Inert rows -/

namespace Token

mutual

/-- A token leaves nothing, does not wait, opens no closure and names no other module, nor does
anything in it. -/
def isInert : Token → Bool
  | ident name => !(["async", "await", "return", "super"].contains name)
  | literal _ => true
  | punct c _ => c != '?' && c != '|'
  | group _ inner => rowIsInert inner

/-- Every token of a row is inert. -/
def rowIsInert : List Token → Bool
  | [] => true
  | t :: rest => isInert t && rowIsInert rest

end

end Token

namespace Code

/-- No token of a row leaves anything, waits, opens a closure or names another module. -/
def Inert (c : Code) : Prop := Token.rowIsInert c = true

variable {c d : Code}

theorem inert_cons_iff {t : Token} : Inert (t :: c) ↔ t.isInert = true ∧ Inert c := by
  rw [Inert, Token.rowIsInert, Bool.and_eq_true, Inert]

theorem inert_append_iff : Inert (c ++ d) ↔ Inert c ∧ Inert d := by
  induction c with
  | nil => exact (and_iff_right (show Inert [] from rfl)).symm
  | cons t c ih => rw [List.cons_append, inert_cons_iff, ih, inert_cons_iff, and_assoc]

theorem Inert.append (hc : Inert c) (hd : Inert d) : Inert (c ++ d) :=
  inert_append_iff.mpr ⟨hc, hd⟩

theorem inert_dot : Inert (op ".") := rfl

theorem inert_comma : Inert (op ",") := rfl

theorem inert_colons : Inert (op "::") := rfl

theorem inert_ampersand : Inert (op "&") := rfl

theorem inert_flatMap {α : Type} {xs : List α} {f : α → Code} (h : ∀ x ∈ xs, Inert (f x)) :
    Inert (xs.flatMap f) := by
  induction xs with
  | nil => rfl
  | cons x xs ih =>
      rw [List.forall_mem_cons] at h
      rw [List.flatMap_cons]
      exact h.1.append (ih h.2)

theorem inert_separated {rows : List Code} (h : ∀ r ∈ rows, Inert r) : Inert (separated rows) := by
  unfold separated
  induction rows with
  | nil => rfl
  | cons r rows ih =>
      rw [List.forall_mem_cons] at h
      cases rows with
      | nil => simpa using h.1
      | cons r' rows =>
          rw [List.intercalate_cons_cons]
          exact (h.1.append inert_comma).append (ih h.2)

theorem inert_group (dl : Delimiter) (h : Inert c) : Inert [.group dl c] :=
  inert_cons_iff.mpr ⟨h, rfl⟩

theorem inert_words_iff {name : String} :
    Inert (words [name]) ↔ name ∉ ["async", "await", "return", "super"] := by
  rw [words, List.map_singleton, inert_cons_iff, Token.isInert]
  simp [Inert, Token.rowIsInert]

/-! ## 4. The judgement -/

/-- **The tokens show what is needed in them, each with the frame there, and which routines they
call**, both in order; the first frame is the one around the tokens. -/
inductive Shows : Frame → List (Frame × Need) → List RoutineCall → Code → Prop where
  | inert {f : Frame} {c : Code} (h : Inert c) : Shows f [] [] c
  /-- A type or a path of the schema stands as it is read. -/
  | spelled {f : Frame} {c : Code} {text : String} (h : type? text = some c ∨ path? text = some c) :
      Shows f [] [] c
  | append {f : Frame} {ns ms : List (Frame × Need)} {cs ds : List RoutineCall} {c d : Code}
      (hc : Shows f ns cs c) (hd : Shows f ms ds d) : Shows f (ns ++ ms) (cs ++ ds) (c ++ d)
  | group {f : Frame} {ns : List (Frame × Need)} {cs : List RoutineCall} {c : Code}
      (dl : Delimiter) (h : Shows f ns cs c) : Shows f ns cs [.group dl c]
  | failure (f : Frame) : Shows f [(f, .failure)] [] [.punct '?' false]
  | await (f : Frame) : Shows f [(f, .await)] [] [.punct '.' false, .ident "await"]
  | refusal (f : Frame) {error : Code} (h : Inert error) : Shows f [(f, .refusal)] []
      [.ident "return", .ident "Err", .group .paren error]
  | noEntry (f : Frame) : Shows f [(f, .noEntry)] []
      [.ident "return", .ident "Ok", .group .paren [.ident "None"]]
  /-- A call that is not awaited can fail. -/
  | call (f : Frame) {c : RoutineCall} (hname : Inert (words [c.routine])) (hgiven : Inert c.given)
      (hawait : c.isAsync = false) : Shows f [(f, .failure)] [c] (c.code ++ [.punct '?' false])
  /-- A call that is awaited is pinned, and can fail, too. -/
  | pinned (f : Frame) {c : RoutineCall} (hname : Inert (words [c.routine]))
      (hgiven : Inert c.given) (hawait : c.isAsync = true) :
      Shows f [(f, .await), (f, .failure)] [c] (words ["Box"] ++ op "::" ++ words ["pin"]
        ++ [.group .paren c.code, .punct '.' false, .ident "await", .punct '?' false])
  /-- A closure with names for what it is given is the frame of its body. -/
  | closure {f g : Frame} {ns : List (Frame × Need)} {cs : List RoutineCall} {names body : Code}
      (hnames : Inert names) (hg : g.isClosure = true) (h : Shows g ns cs body) :
      Shows f ns cs [.group .paren
        ([.punct '|' false] ++ names ++ [.punct '|' false] ++ g.bodyCode body)]

namespace Shows

variable {f : Frame} {ns : List (Frame × Need)} {cs : List RoutineCall}

/-- Behind tokens that show nothing. -/
theorem behind (hc : Shows f [] [] c) (h : Shows f ns cs d) : Shows f ns cs (c ++ d) := hc.append h

/-- In front of tokens that show nothing. -/
theorem before (h : Shows f ns cs c) (hd : Shows f [] [] d) : Shows f ns cs (c ++ d) := by
  have happend := h.append hd
  rwa [List.append_nil, List.append_nil] at happend

theorem comma (h : Shows f ns cs c) : Shows f ns cs (c ++ op ",") := h.before (.inert inert_comma)

theorem semicolon (h : Shows f ns cs c) : Shows f ns cs (c ++ op ";") := h.before (.inert rfl)

end Shows

/-- The tokens show nothing: no mark and no closure stands outside of what the schema spells. -/
def Silent (c : Code) : Prop := ∀ f, Shows f [] [] c

theorem Inert.silent (h : Inert c) : Silent c := fun _ => .inert h

theorem Silent.append (hc : Silent c) (hd : Silent d) : Silent (c ++ d) := fun f =>
  (hc f).append (hd f)

theorem Silent.group (dl : Delimiter) (h : Silent c) : Silent [.group dl c] := fun f =>
  (h f).group dl

theorem silent_flatMap {α : Type} {xs : List α} {g : α → Code} (h : ∀ x ∈ xs, Silent (g x)) :
    Silent (xs.flatMap g) := by
  induction xs with
  | nil => exact Inert.silent rfl
  | cons x xs ih =>
      rw [List.forall_mem_cons] at h
      rw [List.flatMap_cons]
      exact h.1.append (ih h.2)

end Code

end TypeMapper
