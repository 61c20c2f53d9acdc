import TypeMapper.Code.Word
/-!
# Literals

A literal is a string, a character or a number, with a word right behind it as its suffix. Strings
and characters come as text, as bytes, and, strings only, as text without a zero character; strings
have a raw form without escape sequences.

* `Literal.rest?`: what follows the literal at the start of a text.
* `Literal.index?`: the position that a whole number without a suffix names.
-/

namespace TypeMapper.Literal

/-! ## 1. Characters of strings -/

/-- What a string is made of. -/
inductive Content where
  | text
  | bytes
  /-- Text that ends at its first zero character, so that none stands in it. -/
  | zeroFree
  deriving DecidableEq, Repr, Inhabited

namespace Content

/-- The character may stand in the string as it is. -/
def admits : Content → Char → Bool
  | text, _ => true
  | bytes, c => c.toNat < 128
  | zeroFree, c => c != '\x00'

end Content

/-- The value of a digit of a base up to sixteen. -/
def digit? (c : Char) : Option Nat :=
  if c.isDigit then some (c.toNat - '0'.toNat)
  else if 'a' ≤ c && c ≤ 'f' then some (c.toNat - 'a'.toNat + 10)
  else if 'A' ≤ c && c ≤ 'F' then some (c.toNat - 'A'.toNat + 10)
  else none

/-- What follows the two digits of a byte. In text it is a byte below 128. -/
def byteEscape? (content : Content) : List Char → Option (List Char)
  | a :: b :: rest =>
    match digit? a, digit? b with
    | some high, some low =>
      match content with
      | .text => if high < 8 then some rest else none
      | .bytes => some rest
      | .zeroFree => if 0 < high + low then some rest else none
    | _, _ => none
  | _ => none

/-- The code point in braces behind its opening brace, and what follows it: one to six digits, with
underscores behind the first. -/
def codePoint? (value count : Nat) : List Char → Option (Nat × List Char)
  | [] => none
  | c :: rest =>
    if c == '\x7d' then if 0 < count then some (value, rest) else none
    else if c == '_' then if 0 < count then codePoint? value count rest else none
    else
      match digit? c with
      | some d => if count < 6 then codePoint? (16 * value + d) (count + 1) rest else none
      | none => none

/-- What follows an escape sequence behind its backslash. -/
def escape? (content : Content) : List Char → Option (List Char)
  | 'x' :: rest => byteEscape? content rest
  | 'u' :: '\x7b' :: rest =>
    if content = .bytes then none
    else
      match codePoint? 0 0 rest with
      | some (n, rest) =>
        if n.isValidChar ∧ ¬(content = .zeroFree ∧ n = 0) then some rest else none
      | none => none
  | '0' :: rest => if content = .zeroFree then none else some rest
  | c :: rest => if "nrt\\'\"".toList.contains c then some rest else none
  | [] => none

/-- What follows a line end that a backslash hides, and the blanks behind it. A carriage return
belongs to a line feed, and something follows. -/
def continued? : List Char → Option (List Char)
  | '\r' :: '\n' :: rest => continued? rest
  | '\r' :: _ => none
  | c :: rest => if [' ', '\t', '\n'].contains c then continued? rest else some (c :: rest)
  | [] => none

/-! ## 2. Strings and characters -/

/-- What follows a string behind its opening quote, in at most `fuel` steps. -/
def quotedFrom? (content : Content) : Nat → List Char → Option (List Char)
  | 0, _ => none
  | _, [] => none
  | _, '"' :: rest => some rest
  | fuel + 1, '\r' :: '\n' :: rest => quotedFrom? content fuel rest
  | _, '\r' :: _ => none
  | fuel + 1, '\\' :: '\n' :: rest => (continued? rest).bind (quotedFrom? content fuel)
  | fuel + 1, '\\' :: '\r' :: rest => (continued? ('\r' :: rest)).bind (quotedFrom? content fuel)
  | fuel + 1, '\\' :: rest => (escape? content rest).bind (quotedFrom? content fuel)
  | fuel + 1, c :: rest => if content.admits c then quotedFrom? content fuel rest else none

/-- What follows a string behind its opening quote. -/
def quoted? (content : Content) (cs : List Char) : Option (List Char) :=
  quotedFrom? content (cs.length + 1) cs

/-- What follows a raw string behind its opening quote: it ends at the quote that `marks` follow. -/
def rawFrom? (content : Content) (marks : List Char) : List Char → Option (List Char)
  | [] => none
  | '\r' :: '\n' :: rest => rawFrom? content marks rest
  | '\r' :: _ => none
  | c :: rest =>
    if c == '"' && marks.isPrefixOf rest then some (rest.drop marks.length)
    else if content.admits c then rawFrom? content marks rest
    else none

/-- What follows a raw string, which starts with its marks, of which there are at most 255. -/
def raw? (content : Content) (cs : List Char) : Option (List Char) :=
  let marks := cs.takeWhile (· == '#')
  match cs.dropWhile (· == '#') with
  | '"' :: rest => if marks.length ≤ 255 then rawFrom? content marks rest else none
  | _ => none

/-- What follows a character behind its opening quote. -/
def character? (content : Content) : List Char → Option (List Char)
  | '\\' :: rest =>
    match escape? content rest with
    | some ('\x27' :: rest) => some rest
    | _ => none
  | c :: '\x27' :: rest => if content.admits c then some rest else none
  | _ => none

/-! ## 3. Numbers -/

/-- A digit, or an underscore between digits. -/
def isDigitPart (c : Char) : Bool := c.isDigit || c == '_'

/-- What follows an exponent behind its letter: digits, with at most one sign before the first. -/
def exponent? (signed valued : Bool) : List Char → Option (List Char)
  | [] => if valued then some [] else none
  | c :: rest =>
    if c.isDigit then exponent? signed true rest
    else if c == '_' then exponent? signed valued rest
    else if valued then some (c :: rest)
    else if c == '+' || c == '-' then if signed then none else exponent? true valued rest
    else none

/-- What follows the fraction of a number, if it has one. A point before another point or before a
name is none. -/
def fraction? : List Char → Option (Option (List Char))
  | '.' :: c :: rest =>
    if c == '.' || Text.isNameStart c then none
    else some (some ((c :: rest).dropWhile isDigitPart))
  | ['.'] => some (some [])
  | _ => some none

/-- What follows the digits of a number that has a fraction or an exponent. -/
def float? (cs : List Char) : Option (List Char) :=
  let behind := cs.dropWhile isDigitPart
  match fraction? behind with
  | none => none
  | some behindFraction =>
    match behindFraction.getD behind with
    | e :: rest =>
      if e == 'e' || e == 'E' then (exponent? false false rest).orElse fun _ =>
        behindFraction
      else behindFraction
    | [] => behindFraction

/-- The base of a whole number, and what follows the mark of the base. -/
def base : List Char → Nat × List Char
  | '0' :: 'x' :: rest => (16, rest)
  | '0' :: 'o' :: rest => (8, rest)
  | '0' :: 'b' :: rest => (2, rest)
  | cs => (10, cs)

/-- What follows the digits of a whole number; `someDigit` is whether one stood before. A decimal
digit that the base does not have is an error, a letter ends the digits. -/
def wholeFrom? (base : Nat) (someDigit : Bool) : List Char → Option (List Char)
  | [] => if someDigit then some [] else none
  | c :: rest =>
    if c == '_' && (someDigit || base != 10) then wholeFrom? base someDigit rest
    else if (digit? c).any (· < base) then wholeFrom? base true rest
    else if c.isDigit || !someDigit then none
    else some (c :: rest)

/-- What follows the digits of a whole number. -/
def whole? (cs : List Char) : Option (List Char) :=
  let (base, digits) := base cs
  wholeFrom? base false digits

/-- What follows the suffix of a number, behind which no name goes on. -/
def numberEnd? (cs : List Char) : Option (List Char) :=
  let rest := Word.after cs
  if rest.head?.any Text.isNamePart then none else some rest

/-- What follows a number, which starts with a digit. -/
def number? (cs : List Char) : Option (List Char) :=
  if cs.head?.any Char.isDigit then
    ((float? cs).bind numberEnd?).orElse fun _ => (whole? cs).bind numberEnd?
  else none

/-! ## 4. Literals -/

/-- What follows a literal. -/
def rest? : List Char → Option (List Char)
  | '"' :: rest => (quoted? .text rest).map Word.after
  | 'r' :: rest => (raw? .text rest).map Word.after
  | 'b' :: '"' :: rest => (quoted? .bytes rest).map Word.after
  | 'b' :: 'r' :: rest => (raw? .bytes rest).map Word.after
  | 'c' :: '"' :: rest => (quoted? .zeroFree rest).map Word.after
  | 'c' :: 'r' :: rest => (raw? .zeroFree rest).map Word.after
  | 'b' :: '\x27' :: rest => (character? .bytes rest).map Word.after
  | '\x27' :: rest => (character? .text rest).map Word.after
  | cs => number? cs

/-- The literal at the start of a text, and what follows it. -/
def read? (cs : List Char) : Option (List Char × List Char) :=
  (rest? cs).map fun rest => (cs.take (cs.length - rest.length), rest)

/-- The beginnings that belong to literals and not to words. -/
def starts : List (List Char) :=
  ["r\"", "r#\"", "r##", "b\"", "b'", "br\"", "br#", "c\"", "cr\"", "cr#"].map String.toList

/-! ## 5. Values -/

/-- The value of digits, among which underscores may stand; `seen` is the value of those before. -/
def valueFrom? (base : Nat) (seen : Option Nat) : List Char → Option Nat
  | [] => seen
  | c :: rest =>
    if c == '_' then valueFrom? base seen rest
    else
      match digit? c with
      | some d => if d < base then valueFrom? base (some (base * seen.getD 0 + d)) rest else none
      | none => none

/-- The position that a whole number without a suffix names: one of 32 bits. -/
def index? (cs : List Char) : Option Nat :=
  let (base, digits) := base cs
  match cs.head?, valueFrom? base none digits with
  | some c, some n => if c.isDigit && n < 4294967296 then some n else none
  | _, _ => none

end TypeMapper.Literal
