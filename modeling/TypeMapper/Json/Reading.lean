import TypeMapper.Decimal
import TypeMapper.Json.Value
/-!
# Reading JSON text

A text is read into a tree that goes as far as the text is well formed. Where it stops being so the
tree has a broken leaf, so that whoever walks the tree in the order of the text meets either a
value that does not fit or the fault, whichever comes first.

Two walks are told apart: one that *reads* a value and one that *skips* it. Skipping looks neither
at the code points that escapes stand for nor at the size of numbers, and it takes a number that
ends early for a malformed one.

* `Reading`: the tree; `Reading.ofJson`: the tree of a value.
* `readValue`: one value at the start of a text, with the rest of the text.
* `Document.read`: a whole text.
-/

namespace TypeMapper.Json

/-! ## 1. Trees -/

/-- Why reading stops: the text goes on in a wrong way, or it ends. -/
inductive Fault where
  | malformed
  | truncated
  deriving DecidableEq, Repr, Inhabited

/-- A number as its text gives it. -/
inductive Number where
  | natural (n : Nat)
  | negative (n : Nat)
  | real (d : Decimal)
  deriving DecidableEq, Repr, Inhabited

/-- What is read of a text, up to its first fault. -/
inductive Reading where
  | null
  | bool (b : Bool)
  | number (n : Except Fault Number)
  | string (s : Except Fault String)
  | array (items : List Reading) (ending : Option Fault)
  | object (members : List (Except Fault String × Reading)) (ending : Option Fault)
  | broken (reading skipping : Fault)
  deriving Inhabited

/-- A reading and, unless it is broken off, the text behind it. -/
abbrev Read := Reading × Option (List Char)

/-- The reading that stops with one fault in both walks. -/
def stop (f : Fault) : Read := (.broken f f, none)

mutual

/-- The tree of a value. -/
def Reading.ofJson : Json → Reading
  | .null => .null
  | .bool b => .bool b
  | .int n => .number (.ok (if n < 0 then .negative n.natAbs else .natural n.natAbs))
  | .str s => .string (.ok s)
  | .arr items => .array (Reading.ofItems items) none
  | .obj members => .object (Reading.ofMembers members) none

/-- The trees of items. -/
def Reading.ofItems : List Json → List Reading
  | [] => []
  | v :: rest => Reading.ofJson v :: Reading.ofItems rest

/-- The trees of members. -/
def Reading.ofMembers : List (String × Json) → List (Except Fault String × Reading)
  | [] => []
  | (k, v) :: rest => (.ok k, Reading.ofJson v) :: Reading.ofMembers rest

end

/-! ## 2. Blanks and words -/

/-- The blanks between tokens. -/
def isGap (c : Char) : Bool := c == ' ' || c == '\n' || c == '\t' || c == '\r'

/-- A text without its leading blanks. -/
def skipGaps (cs : List Char) : List Char := cs.dropWhile isGap

/-- The rest of a fixed word. -/
def readWord (v : Reading) : List Char → List Char → Read
  | [], cs => (v, some cs)
  | _ :: _, [] => stop .truncated
  | w :: ws, c :: cs => if w = c then readWord v ws cs else stop .malformed

/-! ## 3. Numbers -/

/-- The digits at the start of a text. -/
def takeDigits (cs : List Char) : List Char := cs.takeWhile Char.isDigit

/-- The text behind its leading digits. -/
def dropDigits (cs : List Char) : List Char := cs.dropWhile Char.isDigit

/-- The first natural number beyond 64 bits. -/
def naturalLimit : Nat := 18446744073709551616

/-- The greatest magnitude of a negative integer: one of 64 bits with a sign. -/
def integerLimit : Nat := 9223372036854775808

/-- The value of a decimal digit. -/
def digitValue (c : Char) : Nat := c.toNat - '0'.toNat

/-- A number of 64 bits read on by the digits that still fit, and how many digits do not. -/
def readDigits (n : Nat) : List Char → Nat × Nat
  | [] => (n, 0)
  | c :: rest =>
    if 10 * n + digitValue c < naturalLimit then readDigits (10 * n + digitValue c) rest
    else (n, rest.length + 1)

/-- The value of decimal digits. -/
def digitsValue (cs : List Char) : Nat := cs.foldl (fun n c => 10 * n + digitValue c) 0

/-- A number that misses a digit in front of `cs`. -/
def missingDigit (cs : List Char) : Read :=
  (.broken (if cs.isEmpty then .truncated else .malformed) .malformed, none)

/-- A number with a point or an exponent, which may be out of range. -/
def realNumber (d : Decimal) : Reading :=
  .number (if d.value.isSome then .ok (.real d) else .error .malformed)

/-- An integer, which becomes a real number beyond 64 bits. -/
def wholeNumber (negative : Bool) (whole : List Char) : Reading :=
  let (n, left) := readDigits 0 whole
  if 0 < left then realNumber ⟨negative, n, left⟩
  else if negative then
    if n = 0 ∨ integerLimit < n then realNumber ⟨true, n, 0⟩ else .number (.ok (.negative n))
  else .number (.ok (.natural n))

/-- What follows the mark of an exponent of a numeral. -/
def readExponent (d : Decimal) (cs : List Char) : Read :=
  let (down, cs) :=
    match cs with
    | '-' :: rest => (true, rest)
    | '+' :: rest => (false, rest)
    | _ => (false, cs)
  if (takeDigits cs).isEmpty then missingDigit cs
  else
    let e : Int := digitsValue (takeDigits cs)
    (realNumber ⟨d.negative, d.digits, d.exponent + if down then -e else e⟩, some (dropDigits cs))

/-- The numeral of the digits in front of a point and behind it. Digits that do not fit 64 bits do
not count; in front of the point they still count as places. -/
def numeral (negative : Bool) (whole places : List Char) : Decimal :=
  let (n, left) := readDigits 0 whole
  let (m, lost) := readDigits n places
  ⟨negative, m, (left : Int) - (places.length - lost : Nat)⟩

/-- What follows the digits in front of a point. -/
def readFraction (negative : Bool) (whole : List Char) (cs : List Char) : Read :=
  match cs with
  | '.' :: rest =>
    if (takeDigits rest).isEmpty then missingDigit rest
    else
      let d := numeral negative whole (takeDigits rest)
      match dropDigits rest with
      | 'e' :: more => readExponent d more
      | 'E' :: more => readExponent d more
      | more => (realNumber d, some more)
  | 'e' :: more => readExponent (numeral negative whole []) more
  | 'E' :: more => readExponent (numeral negative whole []) more
  | _ => (wholeNumber negative whole, some cs)

/-- A number behind its sign: no digit follows a leading zero. -/
def readNumber (negative : Bool) (cs : List Char) : Read :=
  match cs with
  | '0' :: rest =>
    if (takeDigits rest).isEmpty then readFraction negative ['0'] rest else stop .malformed
  | _ =>
    if (takeDigits cs).isEmpty then missingDigit cs
    else readFraction negative (takeDigits cs) (dropDigits cs)

/-! ## 4. Strings -/

/-- A part of a quoted text: a character, or a 16-bit unit given by its code. -/
inductive Piece where
  | char (c : Char)
  | unit (n : Nat)
  deriving DecidableEq, Repr

/-- The value of a hexadecimal digit. -/
def hexDigit (c : Char) : Option Nat :=
  if c.isDigit then some (c.toNat - '0'.toNat)
  else if 'a' ≤ c ∧ c ≤ 'f' then some (c.toNat - 'a'.toNat + 10)
  else if 'A' ≤ c ∧ c ≤ 'F' then some (c.toNat - 'A'.toNat + 10)
  else none

/-- The value of four hexadecimal digits. -/
def hexQuad (a b c d : Char) : Option Nat := do
  let w ← hexDigit a
  let x ← hexDigit b
  let y ← hexDigit c
  let z ← hexDigit d
  return ((w * 16 + x) * 16 + y) * 16 + z

/-- The character that a short escape stands for. -/
def shortEscape (c : Char) : Option Char :=
  if c = '"' then some '"'
  else if c = '\\' then some '\\'
  else if c = '/' then some '/'
  else if c = 'b' then some '\x08'
  else if c = 'f' then some '\x0c'
  else if c = 'n' then some '\n'
  else if c = 'r' then some '\r'
  else if c = 't' then some '\t'
  else none

/-- Four hexadecimal digits fail: the text is too short for them, counted in bytes, or it is not. -/
def hexFault (cs : List Char) : Fault :=
  if (cs.take 4).foldl (fun n c => n + c.utf8Size) 0 < 4 then .truncated else .malformed

/-- The parts of a quoted text and the text behind its closing quote. -/
def readPieces : List Char → List Piece × Except Fault (List Char)
  | [] => ([], .error .truncated)
  | '"' :: rest => ([], .ok rest)
  | ['\\'] => ([], .error .truncated)
  | '\\' :: 'u' :: rest =>
    match rest with
    | a :: b :: c :: d :: more =>
      match hexQuad a b c d with
      | some n => let (ps, r) := readPieces more; (.unit n :: ps, r)
      | none => ([], .error (hexFault rest))
    | _ => ([], .error (hexFault rest))
  | '\\' :: e :: rest =>
    match shortEscape e with
    | some c => let (ps, r) := readPieces rest; (.char c :: ps, r)
    | none => ([], .error .malformed)
  | c :: rest =>
    if c.toNat < 0x20 then ([], .error .malformed)
    else let (ps, r) := readPieces rest; (.char c :: ps, r)

/-- The unit opens a surrogate pair. -/
def isHighUnit (n : Nat) : Bool := decide (0xD800 ≤ n) && decide (n ≤ 0xDBFF)

/-- The unit closes a surrogate pair. -/
def isLowUnit (n : Nat) : Bool := decide (0xDC00 ≤ n) && decide (n ≤ 0xDFFF)

/-- The characters that parts stand for; `after` is the fault behind the last part, if any. -/
def joinPieces (after : Option Fault) : List Piece → Except Fault (List Char)
  | [] => match after with
    | none => .ok []
    | some f => .error f
  | .char c :: rest => (joinPieces after rest).map (c :: ·)
  | .unit n :: rest =>
    if isLowUnit n then .error .malformed
    else if isHighUnit n then
      match rest with
      | .unit m :: more =>
        if isLowUnit m then
          (joinPieces after more).map
            (Char.ofNat (0x10000 + (n - 0xD800) * 0x400 + (m - 0xDC00)) :: ·)
        else .error .malformed
      | .char _ :: _ => .error .malformed
      | [] => .error (after.getD .malformed)
    else (joinPieces after rest).map (Char.ofNat n :: ·)

/-- The text up to a closing quote, and the text behind it. -/
def readQuoted (cs : List Char) : Except Fault String × Except Fault (List Char) :=
  let (ps, r) := readPieces cs
  let after := match r with
    | .ok _ => none
    | .error f => some f
  ((joinPieces after ps).map String.ofList, r)

/-- The fault of a string that does not end. -/
def faultOf (s : Except Fault String) (f : Fault) : Fault :=
  match s with
  | .ok _ => f
  | .error g => g

/-! ## 5. Values -/

mutual

/-- One value behind blanks, within `fuel` steps. -/
def readValue : Nat → List Char → Read
  | 0, _ => stop .truncated
  | fuel + 1, cs =>
    match skipGaps cs with
    | [] => stop .truncated
    | 'n' :: rest => readWord .null ['u', 'l', 'l'] rest
    | 't' :: rest => readWord (.bool true) ['r', 'u', 'e'] rest
    | 'f' :: rest => readWord (.bool false) ['a', 'l', 's', 'e'] rest
    | '-' :: rest => readNumber true rest
    | '"' :: rest =>
      let (s, r) := readQuoted rest
      match r with
      | .ok more => (.string s, some more)
      | .error f => (.broken (faultOf s f) f, none)
    | '[' :: rest =>
      match skipGaps rest with
      | ']' :: more => (.array [] none, some more)
      | [] => (.array [] (some .truncated), none)
      | more => let (items, ending, r) := readItems fuel more; (.array items ending, r)
    | '\x7b' :: rest =>
      match skipGaps rest with
      | '\x7d' :: more => (.object [] none, some more)
      | more => let (members, ending, r) := readMembers fuel more; (.object members ending, r)
    | c :: rest => if c.isDigit then readNumber false (c :: rest) else stop .malformed

/-- The items from one on, up to the closing bracket. -/
def readItems : Nat → List Char → List Reading × Option Fault × Option (List Char)
  | 0, _ => ([], some .truncated, none)
  | fuel + 1, cs =>
    match readValue fuel cs with
    | (v, none) => ([v], none, none)
    | (v, some rest) =>
      match skipGaps rest with
      | ',' :: more => let (vs, ending, r) := readItems fuel more; (v :: vs, ending, r)
      | ']' :: more => ([v], none, some more)
      | [] => ([v], some .truncated, none)
      | _ => ([v], some .malformed, none)

/-- The members from one on, up to the closing brace. -/
def readMembers : Nat → List Char →
    List (Except Fault String × Reading) × Option Fault × Option (List Char)
  | 0, _ => ([], some .truncated, none)
  | fuel + 1, cs =>
    match skipGaps cs with
    | [] => ([], some .truncated, none)
    | '"' :: rest =>
      let (k, r) := readQuoted rest
      match r with
      | .error f => ([(k, .broken f f)], none, none)
      | .ok rest =>
        match skipGaps rest with
        | [] => ([(k, .broken .truncated .truncated)], none, none)
        | ':' :: rest =>
          match readValue fuel rest with
          | (v, none) => ([(k, v)], none, none)
          | (v, some rest) =>
            match skipGaps rest with
            | ',' :: more => let (vs, ending, r) := readMembers fuel more; ((k, v) :: vs, ending, r)
            | '\x7d' :: more => ([(k, v)], none, some more)
            | [] => ([(k, v)], some .truncated, none)
            | _ => ([(k, v)], some .malformed, none)
        | _ => ([(k, .broken .malformed .malformed)], none, none)
    | _ => ([], some .malformed, none)

end

/-! ## 6. Documents -/

/-- A text read as one value; `trailing` says that something else follows it. -/
structure Document where
  root : Reading
  trailing : Bool
  deriving Inhabited

/-- Read a whole text. -/
def Document.read (text : String) : Document :=
  let cs := text.toList
  let (root, rest) := readValue (2 * cs.length + 2) cs
  ⟨root, match rest with
    | some more => !(skipGaps more).isEmpty
    | none => false⟩

end TypeMapper.Json
