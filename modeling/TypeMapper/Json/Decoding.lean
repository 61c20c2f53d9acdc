import TypeMapper.Json.Reading
import TypeMapper.Text.Quoted
/-!
# Decoding JSON

A decoder turns a tree into a value of the domain. It walks in the order of the text and stops at
the first thing that is wrong, be it a fault of the text or a value that does not fit. A budget
bounds how many arrays and objects may lie inside each other; a value that is skipped has no bound.

* `DecodeError`: the causes, with their wording in `DecodeError.message?`.
* `text`, `flag`, `word`, `listOf`, `optional`: decoders of simple values.
* `record`: a structure, given as an object or as the array of its fields in order.
* `flattened`, `tagged`, `variant`: an object that two types share, one of them told by a tag.
* `choice`: a name out of a fixed list.
-/

namespace TypeMapper.Json

/-! ## 1. Errors -/

/-- The kind of value that was found. -/
inductive Found where
  | null
  | bool (b : Bool)
  | integer (n : Int)
  | real (d : Decimal)
  | string (s : String)
  | sequence
  | map
  deriving DecidableEq, Repr

/-- The wording of a found value. -/
def Found.text : Found → String
  | .null => "null"
  | .bool b => "boolean `" ++ toString b ++ "`"
  | .integer n => "integer `" ++ toString n ++ "`"
  | .real d => "floating point `" ++ d.text ++ "`"
  | .string s => "string " ++ Text.quoted s
  | .sequence => "sequence"
  | .map => "map"

/-- Why decoding fails. -/
inductive DecodeError where
  | unreadable (f : Fault)
  | invalidType (found : Found) (expected : String)
  | invalidValue (found : Found) (expected : String)
  | invalidLength (length : Nat) (expected : String)
  | missingField (name : String)
  | duplicateField (name : String)
  | unknownField (name : String) (known : List String)
  | unknownVariant (name : String) (known : List String)
  deriving DecidableEq, Repr

/-- A list of names to choose from. -/
def oneOf : List String → String
  | [] => "there are no variants"
  | [a] => "expected `" ++ a ++ "`"
  | [a, b] => "expected `" ++ a ++ "` or `" ++ b ++ "`"
  | names => "expected one of " ++ ", ".intercalate (names.map fun n => "`" ++ n ++ "`")

/-- The wording of an error; a text that is not well formed has none of its own. -/
def DecodeError.message? : DecodeError → Option String
  | .unreadable _ => none
  | .invalidType f e => some ("invalid type: " ++ f.text ++ ", expected " ++ e)
  | .invalidValue f e => some ("invalid value: " ++ f.text ++ ", expected " ++ e)
  | .invalidLength n e => some ("invalid length " ++ toString n ++ ", expected " ++ e)
  | .missingField n => some ("missing field `" ++ n ++ "`")
  | .duplicateField n => some ("duplicate field `" ++ n ++ "`")
  | .unknownField n known => some ("unknown field `" ++ n ++ "`, " ++ oneOf known)
  | .unknownVariant n known => some ("unknown variant `" ++ n ++ "`, " ++ oneOf known)

/-! ## 2. Faults inside a tree -/

mutual

/-- The first fault that skipping a value meets. -/
def Reading.skipFault : Reading → Option Fault
  | .array items ending => (skipFaultItems items).or ending
  | .object members ending => (skipFaultMembers members).or ending
  | .broken _ f => some f
  | _ => none

/-- The first fault that skipping items meets. -/
def skipFaultItems : List Reading → Option Fault
  | [] => none
  | v :: rest => v.skipFault.or (skipFaultItems rest)

/-- The first fault that skipping members meets; a name is not looked at. -/
def skipFaultMembers : List (Except Fault String × Reading) → Option Fault
  | [] => none
  | (_, v) :: rest => v.skipFault.or (skipFaultMembers rest)

end

/-- The fault of a result. -/
def errorOf {α : Type} : Except Fault α → Option Fault
  | .ok _ => none
  | .error f => some f

mutual

/-- The first fault that reading a value of any kind meets within a budget. -/
def Reading.readFault : Nat → Reading → Option Fault
  | _, .null => none
  | _, .bool _ => none
  | _, .number n => errorOf n
  | _, .string s => errorOf s
  | 0, .array _ _ => some .malformed
  | b + 1, .array items ending => (readFaultItems b items).or ending
  | 0, .object _ _ => some .malformed
  | b + 1, .object members ending => (readFaultMembers b members).or ending
  | _, .broken f _ => some f

/-- The first fault that reading items meets. -/
def readFaultItems : Nat → List Reading → Option Fault
  | _, [] => none
  | b, v :: rest => (v.readFault b).or (readFaultItems b rest)

/-- The first fault that reading members meets. -/
def readFaultMembers : Nat → List (Except Fault String × Reading) → Option Fault
  | _, [] => none
  | b, (k, v) :: rest => ((errorOf k).or (v.readFault b)).or (readFaultMembers b rest)

end

/-- Succeed unless there is a fault. -/
def pass : Option Fault → Except DecodeError Unit
  | none => .ok ()
  | some f => .error (.unreadable f)

/-- A result whose only errors are faults of the text. -/
def orUnreadable {α : Type} : Except Fault α → Except DecodeError α
  | .ok v => .ok v
  | .error f => .error (.unreadable f)

/-! ## 3. Simple values -/

/-- A decoder, given the budget of nesting and the tree. -/
abbrev Decoder (α : Type) := Nat → Reading → Except DecodeError α

/-- A number as found. -/
def Number.found : Number → Found
  | .natural n => .integer n
  | .negative n => .integer (-n)
  | .real d => .real d

/-- The kind of a value, or the fault that stands in its place. -/
def Reading.found : Reading → Except Fault Found
  | .null => .ok .null
  | .bool b => .ok (.bool b)
  | .number n => n.map Number.found
  | .string s => s.map .string
  | .array _ _ => .ok .sequence
  | .object _ _ => .ok .map
  | .broken f _ => .error f

/-- The error of a value that is not of the expected kind. -/
def mismatch {α : Type} (expected : String) (v : Reading) : Except DecodeError α :=
  match v.found with
  | .ok found => .error (.invalidType found expected)
  | .error f => .error (.unreadable f)

/-- The first natural number beyond 32 bits. -/
def wordLimit : Nat := 4294967296

namespace Decoder

/-- A text. -/
def text : Decoder String
  | _, .string s => orUnreadable s
  | _, v => mismatch "a string" v

/-- A truth value. -/
def flag : Decoder Bool
  | _, .bool b => .ok b
  | _, v => mismatch "a boolean" v

/-- A number of 32 bits. -/
def word : Decoder UInt32
  | _, .number (.ok (.natural n)) =>
    if n < wordLimit then .ok (UInt32.ofNat n) else .error (.invalidValue (.integer n) "u32")
  | _, .number (.ok (.negative n)) => .error (.invalidValue (.integer (-n)) "u32")
  | _, v => mismatch "u32" v

/-- A value or null. -/
def optional {α : Type} (d : Decoder α) : Decoder (Option α)
  | _, .null => .ok none
  | b, v => (d b v).map some

/-- Decode items in order. -/
def items {α : Type} (d : Reading → Except DecodeError α) :
    List Reading → Except DecodeError (List α)
  | [] => .ok []
  | v :: rest => do
    let x ← d v
    let xs ← items d rest
    return x :: xs

/-- The items of an array, each by the same decoder. -/
def listOf {α : Type} (d : Decoder α) : Decoder (List α)
  | 0, .array _ _ => .error (.unreadable .malformed)
  | b + 1, .array vs ending => do
    let xs ← items (d b) vs
    pass ending
    return xs
  | _, v => mismatch "a sequence" v

end Decoder

/-! ## 4. Records -/

/-- A field of a record: its name, whether it must be given, and how it is set. -/
structure Member (σ : Type) where
  name : String
  required : Bool
  set : Nat → Reading → σ → Except DecodeError σ

/-- A field that must be given. -/
def Member.must {σ α : Type} (name : String) (d : Decoder α) (put : α → σ → σ) : Member σ :=
  ⟨name, true, fun b v s => (d b v).map (put · s)⟩

/-- A field that keeps its initial value if it is not given. -/
def Member.may {σ α : Type} (name : String) (d : Decoder α) (put : α → σ → σ) : Member σ :=
  ⟨name, false, fun b v s => (d b v).map (put · s)⟩

/-- What happens to a member that no field names. -/
inductive Extra where
  | skip
  | refuse
  deriving DecidableEq, Repr

/-- Set the fields from members in order; `seen` are the fields met so far. -/
def setMembers {σ : Type} (fields : List (Member σ)) (extra : Extra) (b : Nat) :
    List (Except Fault String × Reading) → List String → σ → Except DecodeError (List String × σ)
  | [], seen, s => .ok (seen, s)
  | (.error f, _) :: _, _, _ => .error (.unreadable f)
  | (.ok k, v) :: rest, seen, s =>
    match fields.find? (fun f => f.name == k) with
    | some f =>
      if seen.contains k then .error (.duplicateField k)
      else do
        let s ← f.set b v s
        setMembers fields extra b rest (k :: seen) s
    | none =>
      match extra with
      | .refuse => .error (.unknownField k (fields.map Member.name))
      | .skip => do
        pass v.skipFault
        setMembers fields extra b rest seen s

/-- Fail with the first required field, in order of declaration, that was not met. -/
def requireAll {σ : Type} (fields : List (Member σ)) (seen : List String) :
    Except DecodeError Unit :=
  match fields.find? (fun f => f.required && !seen.contains f.name) with
  | some f => .error (.missingField f.name)
  | none => .ok ()

/-- What an array that stands for a record should have been. -/
def elementCount (typeName : String) (n : Nat) : String :=
  "struct " ++ typeName ++ " with " ++ toString n ++ (if n = 1 then " element" else " elements")

/-- Set the fields from the items of an array in order; `at` items were used before. -/
def setItems {σ : Type} (expected : String) (b : Nat) :
    List (Member σ) → List Reading → Option Fault → Nat → σ → Except DecodeError σ
  | [], [], none, _, s => .ok s
  | [], [], some f, _, _ => .error (.unreadable f)
  | [], _ :: _, _, _, _ => .error (.unreadable .malformed)
  | f :: fields, v :: vs, ending, n, s => do
    let s ← f.set b v s
    setItems expected b fields vs ending (n + 1) s
  | _ :: _, [], some f, _, _ => .error (.unreadable f)
  | f :: fields, [], none, n, s =>
    if f.required then .error (.invalidLength n expected)
    else setItems expected b fields [] none (n + 1) s

/-- A structure of named fields, as an object or as the array of its fields in order. -/
def Decoder.record {σ : Type} (typeName : String) (fields : List (Member σ)) (extra : Extra)
    (blank : σ) : Decoder σ
  | 0, .object _ _ => .error (.unreadable .malformed)
  | 0, .array _ _ => .error (.unreadable .malformed)
  | b + 1, .object members ending => do
    let (seen, s) ← setMembers fields extra b members [] blank
    pass ending
    requireAll fields seen
    return s
  | b + 1, .array vs ending =>
    setItems (elementCount typeName fields.length) b fields vs ending 0 blank
  | _, v => mismatch ("struct " ++ typeName) v

/-! ## 5. Objects that two types share -/

/-- Members whose names and values are known to be readable. -/
abbrev Members := List (String × Reading)

/-- Take the member `own` out of the members of an object and keep the others. -/
def takeOwn {β : Type} (own : String) (d : Decoder β) (b : Nat) :
    List (Except Fault String × Reading) → Option β → Except DecodeError (Option β × Members)
  | [], mine => .ok (mine, [])
  | (.error f, _) :: _, _ => .error (.unreadable f)
  | (.ok k, v) :: rest, mine => do
    if k = own then
      if mine.isSome then throw (.duplicateField own)
      let x ← d b v
      takeOwn own d b rest (some x)
    else
      pass (v.readFault b)
      let (mine, others) ← takeOwn own d b rest mine
      return (mine, (k, v) :: others)

/-- An object with one member of its own; the others belong to the type it contains. -/
def flattened {β : Type} (typeName own : String) (d : Decoder β) :
    Nat → Reading → Except DecodeError (Option β × Members)
  | 0, .object _ _ => .error (.unreadable .malformed)
  | b + 1, .object members ending => do
    let (mine, others) ← takeOwn own d b members none
    pass ending
    return (mine, others)
  | _, v => mismatch ("struct " ++ typeName) v

/-- The position of a name in a list of names. -/
def indexOf? (names : List String) (n : String) : Option Nat := names.findIdx? (· == n)

/-- A variant, given by name or by its position. -/
def variantTag (names : List String) : Reading → Except DecodeError Nat
  | .string (.ok s) =>
    match indexOf? names s with
    | some i => .ok i
    | none => .error (.unknownVariant s names)
  | .number (.ok (.natural n)) =>
    if n < names.length then .ok n
    else .error (.invalidValue (.integer n)
      ("variant index 0 <= i < " ++ toString names.length))
  | v => mismatch "variant identifier" v

/-- Take the tag out of members and keep the others. -/
def takeTag (tag : String) (names : List String) :
    Members → Option Nat → Except DecodeError (Option Nat × Members)
  | [], found => .ok (found, [])
  | (k, v) :: rest, found => do
    if k = tag then
      if found.isSome then throw (.duplicateField tag)
      let i ← variantTag names v
      takeTag tag names rest (some i)
    else
      let (found, others) ← takeTag tag names rest found
      return (found, (k, v) :: others)

/-- The variant that the tag among members names, and the other members. -/
def tagged (tag : String) (names : List String) (members : Members) :
    Except DecodeError (Nat × Members) := do
  match ← takeTag tag names members none with
  | (some i, others) => return (i, others)
  | (none, _) => throw (.missingField tag)

/-- The fields of a variant from the members beside its tag. -/
def variant {σ : Type} (fields : List (Member σ)) (b : Nat) (blank : σ) (members : Members) :
    Except DecodeError σ := do
  let (seen, s) ← setMembers fields .skip b (members.map fun m => (.ok m.1, m.2)) [] blank
  requireAll fields seen
  return s

/-- A name out of a list, given as text or as the only name of an object without contents. -/
def choice (names : List String) : Reading → Except DecodeError Nat
  | .string (.ok s) =>
    match indexOf? names s with
    | some i => .ok i
    | none => .error (.unknownVariant s names)
  | .object [(.ok s, v)] _ =>
    match indexOf? names s, v with
    | none, _ => .error (.unknownVariant s names)
    | some i, .null => .ok i
    | some i, .object [] _ => .ok i
    | some _, v => mismatch "unit" v
  | .object _ _ => .error (.invalidValue .map "map with a single key")
  | v => mismatch "string or map" v

/-! ## 6. Documents -/

/-- How deeply arrays and objects may lie inside each other in a text. -/
def nestingLimit : Nat := 127

/-- Decode a whole text. -/
def decodeText {α : Type} (d : Decoder α) (text : String) : Except DecodeError α := do
  let doc := Document.read text
  let x ← d nestingLimit doc.root
  if doc.trailing then throw (.unreadable .malformed)
  return x

end TypeMapper.Json
