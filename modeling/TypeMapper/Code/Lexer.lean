import TypeMapper.Code.Literal
import TypeMapper.Code.Token
import TypeMapper.Text.CodePoint
/-!
# Reading tokens

A text is read as a row of token trees: blanks and comments separate tokens, a comment that
describes something stands for an attribute, brackets must match, and a text that is no row of
tokens is refused as a whole.

* `Lexer.blanks`: skipping blanks and comments.
* `Lexer.described?`: the attribute that a description stands for.
* `Lexer.punct?`, `Lexer.word?`, `Lexer.leaf?`: one token.
* `Code.read?`: the row of a text.
-/

namespace TypeMapper

namespace Lexer

/-! ## 1. Blanks -/

/-- The character separates tokens; marks of writing direction do, too. -/
def isBlank (c : Char) : Bool := Text.isBlank c || c == '\u200e' || c == '\u200f'

/-- What follows a comment in brackets of its own, which may hold others. -/
def blockComment : Nat → List Char → Option (List Char)
  | depth, '/' :: '*' :: rest => blockComment (depth + 1) rest
  | 0, _ => none
  | 1, '*' :: '/' :: rest => some rest
  | depth + 1, '*' :: '/' :: rest => blockComment depth rest
  | depth + 1, _ :: rest => blockComment (depth + 1) rest
  | _, [] => none

/-- The text starts with a comment to the end of the line that describes nothing. -/
def startsLineComment : List Char → Bool
  | '/' :: '/' :: '/' :: '/' :: _ => true
  | '/' :: '/' :: '/' :: _ => false
  | '/' :: '/' :: '!' :: _ => false
  | '/' :: '/' :: _ => true
  | _ => false

/-- The text starts with a comment in brackets that describes nothing. -/
def startsBlockComment : List Char → Bool
  | '/' :: '*' :: '*' :: '*' :: _ => true
  | '/' :: '*' :: '*' :: '/' :: _ => true
  | '/' :: '*' :: '*' :: _ => false
  | '/' :: '*' :: '!' :: _ => false
  | '/' :: '*' :: _ => true
  | _ => false

/-- What follows the blanks and comments at the start, in at most `fuel` steps. -/
def blanksFrom : Nat → List Char → List Char
  | 0, cs => cs
  | _, [] => []
  | fuel + 1, c :: rest =>
    if isBlank c then blanksFrom fuel rest
    else if startsLineComment (c :: rest) then
      blanksFrom fuel ((c :: rest).dropWhile fun c => c != '\n')
    else if startsBlockComment (c :: rest) then
      match blockComment 0 (c :: rest) with
      | some rest => blanksFrom fuel rest
      | none => c :: rest
    else c :: rest

/-- What follows the blanks and comments at the start. -/
def blanks (cs : List Char) : List Char := blanksFrom (cs.length + 1) cs

/-! ## 2. Descriptions -/

/-- What a line holds, and what follows it from its line end on. -/
def line : List Char → List Char × List Char
  | [] => ([], [])
  | '\n' :: rest => ([], '\n' :: rest)
  | '\r' :: '\n' :: rest => ([], '\n' :: rest)
  | c :: rest => let (held, rest) := line rest; (c :: held, rest)

/-- What a comment in brackets holds behind its first three characters. -/
def bracketed? (cs : List Char) : Option (List Char × List Char) :=
  (blockComment 0 cs).map fun rest =>
    (((cs.take (cs.length - rest.length)).drop 3).dropLast.dropLast, rest)

/-- A comment that describes something: whether it describes what it stands in, and its text. -/
def description? : List Char → Option (Bool × List Char × List Char)
  | '/' :: '/' :: '!' :: rest => some (true, line rest)
  | '/' :: '*' :: '!' :: rest => (bracketed? ('/' :: '*' :: '!' :: rest)).map (true, ·)
  | '/' :: '/' :: '/' :: rest => if rest.head? == some '/' then none else some (false, line rest)
  | '/' :: '*' :: '*' :: rest =>
    if rest.head? == some '*' then none
    else (bracketed? ('/' :: '*' :: '*' :: rest)).map (false, ·)
  | _ => none

/-- Every carriage return belongs to a line feed. -/
def returnsBelong : List Char → Bool
  | [] => true
  | '\r' :: '\n' :: rest => returnsBelong rest
  | c :: rest => c != '\r' && returnsBelong rest

/-- The tokens that a description stands for: an attribute. -/
def described? (cs : List Char) : Option (Code × List Char) :=
  match description? cs with
  | some (inner, held, rest) =>
    if returnsBelong held then
      let meaning := words ["doc"] ++ op "=" ++ literal (String.ofList held)
      some (op "#" ++ (if inner then op "!" else []) ++ brackets meaning, rest)
    else none
  | none => none

/-! ## 3. Tokens -/

/-- The characters of operators. -/
def punctuation : List Char := "~!@#$%^&*-=+|;:,<.>/?'".toList

/-- An operator character stands here; a comment is none. -/
def startsPunct : List Char → Bool
  | '/' :: '/' :: _ => false
  | '/' :: '*' :: _ => false
  | c :: _ => punctuation.contains c
  | [] => false

/-- A character of an operator, or the mark of a lifetime. A lifetime is no character in quotes. -/
def punct? (cs : List Char) : Option (Token × List Char) :=
  match cs with
  | '\x27' :: rest =>
    match Word.read? rest with
    | some (w, '#' :: _) =>
      if ['r', '#'].isPrefixOf w then some (.punct '\x27' true, rest) else none
    | some (_, '\x27' :: _) => none
    | some _ => some (.punct '\x27' true, rest)
    | none => none
  | c :: rest => if startsPunct cs then some (.punct c (startsPunct rest), rest) else none
  | [] => none

/-- A word where a literal is not meant. -/
def word? (cs : List Char) : Option (List Char × List Char) :=
  if Literal.starts.any fun s => s.isPrefixOf cs then none else Word.read? cs

/-- The text that stands for a literal that could not be read. -/
def unreadable : List Char := "(/*ERROR*/)".toList

/-- One token that is no group. -/
def leaf? (cs : List Char) : Option (Token × List Char) :=
  match Literal.read? cs with
  | some (w, rest) => some (.literal (String.ofList w), rest)
  | none =>
    match punct? cs with
    | some t => some t
    | none =>
      match word? cs with
      | some (w, rest) => some (.ident (String.ofList w), rest)
      | none =>
        if unreadable.isPrefixOf cs then
          some (.literal (String.ofList unreadable), cs.drop unreadable.length)
        else none

/-- The brackets that are opened at the start of a text. -/
def opened? (cs : List Char) : Option Delimiter :=
  if unreadable.isPrefixOf cs then none else cs.head?.bind Delimiter.ofOpening?

/-- The tokens up to a closing bracket or the end, in at most `fuel` steps. -/
def rowFrom : Nat → List Char → Option (Code × List Char)
  | 0, _ => none
  | fuel + 1, cs =>
    let cs := blanks cs
    match described? cs with
    | some (row, rest) => (rowFrom fuel rest).map fun p => (row ++ p.1, p.2)
    | none =>
      match cs, opened? cs with
      | [], _ => some ([], [])
      | _ :: rest, some d =>
        match rowFrom fuel rest with
        | some (inner, c :: rest) =>
          if c = d.closing then
            (rowFrom fuel rest).map fun p => (.group d inner :: p.1, p.2)
          else none
        | _ => none
      | c :: rest, none =>
        if Delimiter.isClosing c then some ([], c :: rest)
        else
          match leaf? (c :: rest) with
          | some (t, rest) => (rowFrom fuel rest).map fun p => (t :: p.1, p.2)
          | none => none

end Lexer

/-- The row of tokens that a text is, if it is one. A mark of the byte order in front is no part of
the text. -/
def Code.read? (s : String) : Option Code :=
  let cs := match s.toList with
    | '\ufeff' :: rest => rest
    | cs => cs
  match Lexer.rowFrom (cs.length + 1) cs with
  | some (code, []) => some code
  | _ => none

end TypeMapper
