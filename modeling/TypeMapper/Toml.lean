/-!
# Flat TOML documents

A settings file assigns values to names, one assignment a line. This is the part of TOML without
tables: a document with a table header, a dotted name or an inline table is refused, and so are
numbers with a fraction and dates, because no setting takes one.

* `Toml.Value`: truth values, integers, texts and arrays.
* `Toml.read`: the assignments of a document in order, each name once.
-/

namespace TypeMapper.Toml

/-! ## 1. Values -/

/-- A value of a setting. -/
inductive Value where
  | bool (b : Bool)
  | int (n : Int)
  | str (s : String)
  | arr (items : List Value)
  deriving Inhabited, Repr

/-! ## 2. Blanks, line ends and comments -/

/-- A blank inside a line. -/
def isInlineBlank (c : Char) : Bool := c == ' ' || c == '\t'

/-- A text without its leading blanks. -/
def skipInline (cs : List Char) : List Char := cs.dropWhile isInlineBlank

/-- The character may not stand in comments and texts. -/
def isForbidden (c : Char) : Bool := (decide (c.toNat < 0x20) && c != '\t') || c == '\x7f'

/-- The text behind a line end. -/
def lineEnd? : List Char → Option (List Char)
  | '\n' :: rest => some rest
  | '\r' :: '\n' :: rest => some rest
  | _ => none

/-- The text behind a comment, if one stands here: it starts with the line end. -/
def skipComment : List Char → List Char
  | '#' :: rest => rest.dropWhile fun c => !isForbidden c
  | cs => cs

/-- The text behind blanks, comments and line ends, within `fuel` lines. -/
def skipLines : Nat → List Char → List Char
  | 0, cs => cs
  | fuel + 1, cs =>
    match lineEnd? (skipComment (skipInline cs)) with
    | some rest => skipLines fuel rest
    | none => skipComment (skipInline cs)

/-! ## 3. Texts -/

/-- The value of a hexadecimal digit. -/
def hexDigit (c : Char) : Option Nat :=
  if c.isDigit then some (c.toNat - '0'.toNat)
  else if 'a' ≤ c ∧ c ≤ 'f' then some (c.toNat - 'a'.toNat + 10)
  else if 'A' ≤ c ∧ c ≤ 'F' then some (c.toNat - 'A'.toNat + 10)
  else none

/-- The value of hexadecimal digits behind `n`. -/
def hexValue : Nat → List Char → Option Nat
  | n, [] => some n
  | n, c :: rest => (hexDigit c).bind fun d => hexValue (16 * n + d) rest

/-- The character of a code point, unless it is half of a surrogate pair or out of range. -/
def charOf? (n : Nat) : Option Char := if n.isValidChar then some (Char.ofNat n) else none

/-- The character of exactly `k` hexadecimal digits. -/
def hexChar (k : Nat) (cs : List Char) : Option (Char × List Char) :=
  if cs.length < k then none
  else ((hexValue 0 (cs.take k)).bind charOf?).map fun c => (c, cs.drop k)

/-- The character that an escape stands for, behind its backslash. -/
def escape : List Char → Option (Char × List Char)
  | 'b' :: rest => some ('\x08', rest)
  | 't' :: rest => some ('\t', rest)
  | 'n' :: rest => some ('\n', rest)
  | 'f' :: rest => some ('\x0c', rest)
  | 'r' :: rest => some ('\r', rest)
  | 'e' :: rest => some ('\x1b', rest)
  | '"' :: rest => some ('"', rest)
  | '\\' :: rest => some ('\\', rest)
  | 'x' :: rest => hexChar 2 rest
  | 'u' :: rest => hexChar 4 rest
  | 'U' :: rest => hexChar 8 rest
  | _ => none

/-- A text on one line up to its quote; escapes count in double quotes only. -/
def lineText (quote : Char) : Nat → List Char → Option (List Char × List Char)
  | 0, _ => none
  | _, [] => none
  | fuel + 1, c :: rest =>
    if c = quote then some ([], rest)
    else if c = '\\' ∧ quote = '"' then do
      let (d, more) ← escape rest
      let (ds, more) ← lineText quote fuel more
      return (d :: ds, more)
    else if isForbidden c then none
    else do
      let (ds, more) ← lineText quote fuel rest
      return (c :: ds, more)

/-- The text behind blanks and line ends, within `fuel` line ends. -/
def skipBlankLines : Nat → List Char → List Char
  | 0, cs => cs
  | fuel + 1, cs =>
    match lineEnd? (skipInline cs) with
    | some rest => skipBlankLines fuel rest
    | none => skipInline cs

/-- The text behind an escaped line end and all blanks and line ends after it. -/
def foldedLine? (cs : List Char) : Option (List Char) :=
  (lineEnd? (skipInline cs)).map fun rest => skipBlankLines (rest.length + 1) rest

/-- A text over several lines up to three quotes; up to two more quotes belong to it. Line ends are
kept as they are written. -/
def blockText (quote : Char) : Nat → List Char → Option (List Char × List Char)
  | 0, _ => none
  | _, [] => none
  | fuel + 1, c :: rest =>
    if c = quote ∧ rest.take 2 = [quote, quote] then
      let more := (rest.drop 2).takeWhile (· == quote)
      if 2 < more.length then none else some (more, (rest.drop 2).drop more.length)
    else if c = '\\' ∧ quote = '"' then
      match foldedLine? rest with
      | some more => blockText quote fuel more
      | none => do
        let (d, more) ← escape rest
        let (ds, more) ← blockText quote fuel more
        return (d :: ds, more)
    else if isForbidden c && (lineEnd? (c :: rest)).isNone then none
    else do
      let (ds, more) ← blockText quote fuel rest
      return (c :: ds, more)

/-- A text behind its first quote. -/
def quotedText (quote : Char) (cs : List Char) : Option (String × List Char) :=
  let body :=
    if cs.take 2 = [quote, quote] then
      let inner := cs.drop 2
      blockText quote (inner.length + 1) ((lineEnd? inner).getD inner)
    else lineText quote (cs.length + 1) cs
  body.map fun p => (String.ofList p.1, p.2)

/-! ## 4. Numbers and words -/

/-- Digits of a base, with single underscores between digits. -/
def digitsValue? (base : Nat) : List Char → Nat → Option Nat
  | [], n => some n
  | '_' :: c :: rest, n =>
    (hexDigit c).bind fun d => if d < base then digitsValue? base rest (base * n + d) else none
  | c :: rest, n =>
    (hexDigit c).bind fun d => if d < base then digitsValue? base rest (base * n + d) else none

/-- A number that begins with a digit. -/
def startValue? (base : Nat) : List Char → Option Nat
  | [] => none
  | c :: rest => (hexDigit c).bind fun d => if d < base then digitsValue? base rest d else none

/-- An unsigned decimal number without a leading zero. -/
def decimal? : List Char → Option Nat
  | ['0'] => some 0
  | '0' :: _ => none
  | cs => startValue? 10 cs

/-- A number of 64 bits. -/
def inRange (n : Int) : Option Int :=
  if -9223372036854775808 ≤ n ∧ n < 9223372036854775808 then some n else none

/-- The value of a word that is not quoted. -/
def wordValue? (w : List Char) : Option Value :=
  if w = "true".toList then some (.bool true)
  else if w = "false".toList then some (.bool false)
  else
    let n : Option Int :=
      match w with
      | '+' :: rest => (decimal? rest).map Int.ofNat
      | '-' :: rest => (decimal? rest).map fun n => -(n : Int)
      | '0' :: 'x' :: rest => (startValue? 16 rest).map Int.ofNat
      | '0' :: 'o' :: rest => (startValue? 8 rest).map Int.ofNat
      | '0' :: 'b' :: rest => (startValue? 2 rest).map Int.ofNat
      | _ => (decimal? w).map Int.ofNat
    (n.bind inRange).map .int

/-- The character can be part of a word that is not quoted. -/
def isWordChar (c : Char) : Bool := c.isAlphanum || c == '_' || c == '-' || c == '+' || c == '.'

/-! ## 5. Values and assignments -/

mutual

/-- A value, within `fuel` steps. -/
def value : Nat → List Char → Option (Value × List Char)
  | 0, _ => none
  | fuel + 1, cs =>
    match cs with
    | '"' :: rest => (quotedText '"' rest).map fun p => (.str p.1, p.2)
    | '\x27' :: rest => (quotedText '\x27' rest).map fun p => (.str p.1, p.2)
    | '[' :: rest => (arrayItems fuel (skipLines rest.length rest)).map fun p => (.arr p.1, p.2)
    | _ =>
      let w := cs.takeWhile isWordChar
      (wordValue? w).map fun v => (v, cs.drop w.length)

/-- The items of an array and its closing bracket; a comma may stand behind the last item. -/
def arrayItems : Nat → List Char → Option (List Value × List Char)
  | 0, _ => none
  | fuel + 1, cs =>
    match cs with
    | ']' :: rest => some ([], rest)
    | _ => do
      let (v, rest) ← value fuel cs
      match skipLines rest.length rest with
      | ',' :: more => do
        let (vs, more) ← arrayItems fuel (skipLines more.length more)
        return (v :: vs, more)
      | ']' :: more => return ([v], more)
      | _ => none

end

/-- The character can be part of a name that is not quoted. -/
def isNameChar (c : Char) : Bool := c.isAlphanum || c == '_' || c == '-'

/-- The name in front of an assignment. -/
def name : List Char → Option (String × List Char)
  | '"' :: rest => (lineText '"' (rest.length + 1) rest).map fun p => (String.ofList p.1, p.2)
  | '\x27' :: rest => (lineText '\x27' (rest.length + 1) rest).map fun p => (String.ofList p.1, p.2)
  | cs =>
    let n := cs.takeWhile isNameChar
    if n.isEmpty then none else some (String.ofList n, cs.drop n.length)

/-- An assignment up to the end of its line. -/
def assignment (cs : List Char) : Option ((String × Value) × List Char) := do
  let (n, rest) ← name cs
  match skipInline rest with
  | '=' :: rest =>
    let (v, rest) ← value (rest.length + 1) (skipInline rest)
    match skipComment (skipInline rest) with
    | [] => return ((n, v), [])
    | rest => (lineEnd? rest).map fun more => ((n, v), more)
  | _ => none

/-- The assignments of a text, within `fuel` lines; `seen` are the names before. -/
def assignments : Nat → List String → List Char → Option (List (String × Value))
  | 0, _, _ => none
  | fuel + 1, seen, cs =>
    match skipLines cs.length cs with
    | [] => some []
    | rest => do
      let (a, more) ← assignment rest
      if seen.contains a.1 then none
      else
        let others ← assignments fuel (a.1 :: seen) more
        return a :: others

/-- The assignments of a document; a byte order mark in front of it does not count. -/
def read (text : String) : Option (List (String × Value)) :=
  let cs := match text.toList with
    | '\uFEFF' :: rest => rest
    | cs => cs
  assignments (cs.length + 1) [] cs

end TypeMapper.Toml
