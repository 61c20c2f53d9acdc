import TypeMapper.MappingError
import TypeMapper.Routine.Scope
/-!
# Generated values

The expressions from which a routine makes the properties of its destination, as a syntax tree. A
place carries whether its value may be absent, so that it can be read off a value whether it is
optional.

* `Place`: a binding, a field or a position; `Place.borrow` and `Place.read` are its two uses.
* `Value`: an expression; `Value.code` spells it, `Value.paths` are the paths it names.
* `Value.optional`: the expression is an option.
* `Value.fitted`: an expression made to fit a slot.
-/

namespace TypeMapper

/-! ## 1. Places -/

/-- What is read: a binding that holds a reference, or a part of what another place holds. -/
inductive Place where
  | binding (name : String) (optional : Bool)
  | field (base : Place) (name : String) (optional : Bool)
  | position (base : Place) (index : Nat) (optional : Bool)
  deriving DecidableEq, Repr, Inhabited

namespace Place

/-- The value there may be absent. -/
def optional : Place → Bool
  | binding _ o => o
  | field _ _ o => o
  | position _ _ o => o

/-- The binding at which a place starts. -/
def root : Place → String
  | binding name _ => name
  | field base _ _ => base.root
  | position base _ _ => base.root

/-- The tokens of a place. -/
def code : Place → Code
  | binding name _ => words [name]
  | field base name _ => base.code ++ op "." ++ words [name]
  | position base index _ => base.code ++ op "." ++ [.literal (toString index)]

/-- A reference to the value. -/
def borrow : Place → Code
  | binding name _ => words [name]
  | p => op "&" ++ p.code

/-- An owned copy of the value: a plain read of one with value semantics, or a clone. -/
def read (p : Place) (byValue : Bool) : Code :=
  if byValue then
    match p with
    | binding name _ => op "*" ++ words [name]
    | p => p.code
  else p.code ++ op "." ++ words ["clone"] ++ parens []

end Place

/-! ## 2. Values -/

/-- What a helper is given. -/
inductive Subject where
  /-- A reference to a place. -/
  | borrowed (p : Place)
  /-- A reference to a present value, for a helper that takes absent ones. -/
  | present (p : Place) (byValue : Bool)
  deriving DecidableEq, Repr, Inhabited

/-- The place that a subject is taken from. -/
def Subject.place : Subject → Place
  | borrowed p => p
  | present p _ => p

/-- The tokens of a subject. -/
def Subject.code : Subject → Code
  | borrowed p => p.borrow
  | present p byValue => op "&" ++ words ["Some"] ++ parens (p.read byValue)

/-- The elements of a container in order, perhaps without the absent ones. -/
structure Items where
  place : Place
  flattened : Bool
  deriving DecidableEq, Repr, Inhabited

/-- How the slots of a container are gathered. -/
inductive Gathering where
  /-- No slot can fail. -/
  | plain
  /-- A slot can fail. -/
  | fallible
  /-- A slot can fail and is awaited. -/
  | joined
  /-- Entries with an absent slot are dropped. -/
  | filtered
  deriving DecidableEq, Repr, Inhabited

/-- A generated expression. -/
inductive Value where
  /-- A copy of what is at a place. -/
  | read (p : Place) (byValue : Bool)
  | absent
  /-- The default of the type that is wanted. -/
  | standard
  | present (v : Value)
  /-- The value of an option, or the default. -/
  | orStandard (v : Value)
  /-- The value of an option, or else nothing comes out of the closure around. -/
  | required (v : Value)
  /-- Leave the function around with an error. -/
  | fail (e : MappingError)
  /-- Leave the closure around without an entry. -/
  | dropEntry
  | method (owner : PathSpelling) (name : String) (subject : Subject) (arguments : List String)
    (isAsync optional : Bool)
  | resolve (input output : TypeSpelling) (resolver : String) (subject : Subject)
    (isAsync optional : Bool)
  /-- A call of the routine of a mapping; one of another module is found in the module around. -/
  | delegate (target : MappingId) (routine : String) (own : Bool) (input : Place)
    (arguments : List String) (isAsync : Bool)
  /-- By cases of an option, of which `binding` is the value. -/
  | cases (p : Place) (binding : String) (v otherwise : Value)
  /-- The option of the value of an option, converted. -/
  | mapped (p : Place) (binding : String) (v : Value)
  /-- The option that the value of an option is converted to. -/
  | chained (p : Place) (binding : String) (v : Value)
  /-- The elements, copied. -/
  | copies (items : Items) (byValue : Bool) (target : CollectionKind)
  /-- The elements, converted one by one. -/
  | each (items : Items) (binding : String) (v : Value) (target : CollectionKind)
    (gathering : Gathering)
  /-- The entries of a map, converted one by one. -/
  | entries (p : Place) (keyBinding valueBinding : String) (key value : Value) (target : MapKind)
    (gathering : Gathering)
  | tuple (vs : List Value)
  /-- The literal of a mapping written out at a depth, with a name for its input. -/
  | inlined (target : MappingId) (depth : Nat) (binding : String) (input : Place) (v : Value)
  /-- A value of an object type by its fields; an open one takes the others from the default. -/
  | construct (type : PathSpelling) (fields : List (String × Value)) (isOpen : Bool)
  deriving Inhabited

namespace Value

/-- The expression is an option. -/
def optional : Value → Bool
  | read p _ => p.optional
  | absent => true
  | present _ => true
  | method _ _ _ _ _ o => o
  | resolve _ _ _ _ _ o => o
  | cases _ _ v _ => optional v
  | mapped .. => true
  | chained .. => true
  | inlined _ _ _ _ v => optional v
  | _ => false

/-- The expression made to fit a slot of which the value may be absent or not. -/
def fitted (v : Value) (wanted : Bool) : Value :=
  match v.optional, wanted with
  | true, false => orStandard v
  | false, true => present v
  | _, _ => v

/-- The present value for a slot of which the value may be absent. -/
def lifted (v : Value) (wanted : Bool) : Value := if wanted then present v else v

/-- A fitted expression is an option exactly for a slot of which the value may be absent. -/
theorem optional_fitted (v : Value) (wanted : Bool) : (v.fitted wanted).optional = wanted := by
  unfold fitted
  cases h : v.optional <;> cases wanted <;> simp [optional, h]

/-! ## 3. Spelling -/

/-- The runtime library that generated code calls. -/
def runtime (segments : List String) : Code := rooted ("mapforge" :: segments)

/-- The type of errors. -/
def errorCode : Code := runtime ["MappingError"]

/-- The wildcard type. -/
def anyCode : Code := words ["_"]

/-- A call of a method. -/
def call (name : String) (arguments : Code) : Code := op "." ++ words [name] ++ parens arguments

/-- A call of the method that gathers into a type. -/
def collect (target : Code) : Code :=
  op "." ++ words ["collect"] ++ op "::" ++ op "<" ++ target ++ op ">" ++ parens []

/-- A call of the method that gathers into a type which an operator closes together with the type
in it. -/
def collectNested (target : Code) : Code :=
  op "." ++ words ["collect"] ++ op "::" ++ op "<" ++ target ++ op ">>" ++ parens []

/-- The parameters of a closure. -/
def bars (inner : Code) : Code := op "|" ++ inner ++ op "|"

/-- Names behind a first argument. -/
def further (names : List String) : Code := names.flatMap fun n => op "," ++ words [n]

/-- An awaited call. -/
def await : Code := op "." ++ words ["await"]

/-- The call that awaits many results and stops at the first error. -/
def joinAll (inner : Code) : Code :=
  runtime ["__reexports", "futures", "future", "try_join_all"] ++ parens inner ++ await ++ op "?"
    ++ call "into_iter" []

/-- The start of a result that a block ends with. -/
def okTyped (inner : Code) : Code :=
  words ["Ok"] ++ op "::" ++ op "<" ++ anyCode ++ op "," ++ errorCode ++ op ">" ++ parens inner

/-- The type that elements are gathered into. -/
def targetCode : CollectionKind → Code
  | .array => words ["Box"] ++ angles (brackets anyCode)
  | .list => words ["Vec"] ++ angles anyCode
  | .sequence => anyCode

/-- The start of the type that entries are gathered into, which is still open. -/
def mapCode (kind : MapKind) : Code :=
  kind.code ++ op "<" ++ anyCode ++ op "," ++ anyCode

/-- The expression of an error. -/
def failureCode : MappingError → Code
  | .nullSource k =>
    runtime ["MappingError", "null_source"] ++ parens (texts [k.source, k.destination])
  | .nullProperty k p =>
    runtime ["MappingError", "null_property"] ++ parens (texts [k.source, k.destination, p])
  | .nullElement k p =>
    runtime ["MappingError", "null_element"] ++ parens (texts [k.source, k.destination, p])
  | .notConfigured k =>
    runtime ["MappingError", "not_configured"] ++ parens (texts [k.source, k.destination])
where
  /-- Texts as arguments. -/
  texts (ts : List String) : Code := separated (ts.map literal)

/-- Leave with an error. -/
def returnError (e : Code) : Code := words ["return", "Err"] ++ parens e

end Value

/-- The tokens that go through the elements. -/
def Items.code (i : Items) : Code :=
  i.place.code ++ Value.call "iter" [] ++ if i.flattened then Value.call "flatten" [] else []

namespace Value

/-- The elements converted by a closure with a body. -/
def eachCode (items : Items) (binding : String) (body : Code) (target : CollectionKind) :
    Gathering → Code
  | .fallible =>
    items.code ++ call "map" (bars (words [binding]) ++ op "->" ++ words ["Result"]
      ++ angles (anyCode ++ op "," ++ errorCode) ++ braces (words ["Ok"] ++ parens body))
      ++ collectNested (words ["Result"] ++ op "<" ++ targetCode target ++ op "," ++ anyCode)
      ++ op "?"
  | .joined =>
    joinAll (items.code ++ call "map" (bars (words [binding]) ++ words ["async", "move"]
      ++ braces (okTyped body))) ++ collect (targetCode target)
  | _ => items.code ++ call "map" (bars (words [binding]) ++ body) ++ collect (targetCode target)

/-- The entries converted by a closure that makes a pair. -/
def entriesCode (p : Place) (keyBinding valueBinding : String) (pair : Code) (target : MapKind) :
    Gathering → Code :=
  let items := p.code ++ call "iter" []
  let names := bars (parens (words [keyBinding] ++ op "," ++ words [valueBinding]))
  let some := words ["Some"] ++ parens pair
  fun
  | .plain => items ++ call "map" (names ++ pair) ++ collectNested (mapCode target)
  | .filtered => items ++ call "filter_map" (names ++ some) ++ collectNested (mapCode target)
  | .fallible =>
    items ++ call "map" (names ++ op "->" ++ words ["Result"] ++ angles (words ["Option"]
      ++ angles (parens (anyCode ++ op "," ++ anyCode)) ++ op "," ++ errorCode)
      ++ braces (words ["Ok"] ++ parens some))
      ++ call "filter_map" (words ["Result"] ++ op "::" ++ words ["transpose"])
      ++ collectNested (words ["Result"] ++ op "<" ++ mapCode target ++ op ">" ++ op "," ++ anyCode)
      ++ op "?"
  | .joined =>
    joinAll (items ++ call "map" (names ++ words ["async", "move"] ++ braces (okTyped some)))
      ++ call "flatten" [] ++ collectNested (mapCode target)

/-- A call that is awaited if it is asynchronous. -/
def awaited (isAsync : Bool) (c : Code) : Code := if isAsync then c ++ await else c

/-- The call of a resolver. -/
def resolveCode (input output : TypeSpelling) (resolver : String) (subject : Subject)
    (isAsync : Bool) : Code :=
  awaited isAsync (runtime [if isAsync then "AsyncValueResolver" else "ValueResolver"] ++ op "::"
    ++ angles (input.code ++ op "," ++ output.code) ++ op "::" ++ words ["resolve"]
    ++ parens (words [resolver] ++ op "," ++ subject.code))

/-- The call of the routine of a mapping. -/
def delegateCode (routine : String) (own : Bool) (input : Place) (arguments : List String)
    (isAsync : Bool) : Code :=
  let plain := (if own then [] else words ["super"] ++ op "::") ++ words [routine]
    ++ parens (input.borrow ++ further arguments)
  (if isAsync then words ["Box"] ++ op "::" ++ words ["pin"] ++ parens plain ++ await else plain)
    ++ op "?"

mutual

/-- The tokens of an expression. -/
def code : Value → Code
  | read p byValue => p.read byValue
  | absent => words ["None"]
  | standard => words ["Default"] ++ op "::" ++ words ["default"] ++ parens []
  | present v => words ["Some"] ++ parens (code v)
  | orStandard v => code v ++ call "unwrap_or_default" []
  | required v => code v ++ op "?"
  | fail e => returnError (failureCode e)
  | dropEntry => words ["return", "Ok"] ++ parens (words ["None"])
  | method owner name subject arguments isAsync _ =>
    awaited isAsync (owner.code ++ op "::" ++ words [name]
      ++ parens (subject.code ++ further arguments))
  | resolve input output resolver subject isAsync _ =>
    resolveCode input output resolver subject isAsync
  | delegate _ routine own input arguments isAsync =>
    delegateCode routine own input arguments isAsync
  | cases p binding v otherwise =>
    words ["match"] ++ p.borrow ++ braces (words ["Some"] ++ parens (words [binding]) ++ op "=>"
      ++ code v ++ op "," ++ words ["None"] ++ op "=>" ++ code otherwise ++ op ",")
  | mapped p binding v =>
    p.code ++ call "as_ref" [] ++ call "map" (bars (words [binding]) ++ code v)
  | chained p binding v =>
    p.code ++ call "as_ref" [] ++ call "and_then" (bars (words [binding]) ++ code v)
  | copies items byValue target =>
    items.code ++ call (if byValue then "copied" else "cloned") [] ++ collect (targetCode target)
  | each items binding v target gathering => eachCode items binding (code v) target gathering
  | entries p keyBinding valueBinding k v target gathering =>
    entriesCode p keyBinding valueBinding (parens (code k ++ op "," ++ code v)) target gathering
  | tuple vs => parens (tupleCode vs)
  | inlined _ _ binding input v =>
    braces (words ["let", binding] ++ op "=" ++ input.borrow ++ op ";" ++ code v)
  | construct type fields isOpen =>
    type.code ++ braces (fieldsCode fields
      ++ if isOpen then op ".." ++ words ["Default"] ++ op "::" ++ words ["default"] ++ parens []
        else [])

/-- The tokens of the elements of a tuple. -/
def tupleCode : List Value → Code
  | [] => []
  | v :: rest => code v ++ op "," ++ tupleCode rest

/-- The tokens of fields. -/
def fieldsCode : List (String × Value) → Code
  | [] => []
  | (name, v) :: rest => words [name] ++ op ":" ++ code v ++ op "," ++ fieldsCode rest

end

/-! ## 4. Named paths -/

mutual

/-- The paths that an expression names. -/
def paths : Value → List PathSpelling
  | method owner _ _ _ _ _ => [owner]
  | resolve input output _ _ _ _ => input.paths ++ output.paths
  | present v => paths v
  | orStandard v => paths v
  | required v => paths v
  | cases _ _ v otherwise => paths v ++ paths otherwise
  | mapped _ _ v => paths v
  | chained _ _ v => paths v
  | each _ _ v _ _ => paths v
  | entries _ _ _ k v _ _ => paths k ++ paths v
  | tuple vs => pathsOf vs
  | inlined _ _ _ _ v => paths v
  | construct type fields _ => type :: fieldPaths fields
  | _ => []

/-- The paths that expressions name. -/
def pathsOf : List Value → List PathSpelling
  | [] => []
  | v :: rest => paths v ++ pathsOf rest

/-- The paths that fields name. -/
def fieldPaths : List (String × Value) → List PathSpelling
  | [] => []
  | (_, v) :: rest => paths v ++ fieldPaths rest

end

end Value

end TypeMapper
