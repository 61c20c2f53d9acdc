import TypeMapper.Text.Quoted
/-!
# Tokens

Generated code is a row of token trees. A row is printed with one space between tokens, except
behind a joint character of punctuation, so that an operator of several characters stays together.

* `Token`: a token, or a group of tokens in brackets.
* `Code.text`: the printed row.
* `op`, `lifetime`, `words`, `rooted`, `parens`, `brackets`, `braces`: how rows are put together.
-/

namespace TypeMapper

/-! ## 1. Token trees -/

/-- The brackets of a group. -/
inductive Delimiter where
  | paren
  | bracket
  | brace
  deriving DecidableEq, Repr, Inhabited

namespace Delimiter

/-- The bracket that opens a group. -/
def opening : Delimiter → Char
  | paren => '('
  | bracket => '['
  | brace => '\x7b'

/-- The bracket that closes a group. -/
def closing : Delimiter → Char
  | paren => ')'
  | bracket => ']'
  | brace => '\x7d'

/-- The brackets that a character opens. -/
def ofOpening? (c : Char) : Option Delimiter :=
  [paren, bracket, brace].find? fun d => d.opening == c

/-- The character closes a group. -/
def isClosing (c : Char) : Bool := [paren, bracket, brace].any fun d => d.closing == c

end Delimiter

/-- A token, or a group of tokens. -/
inductive Token where
  /-- A word: a keyword or a name, with the mark of a raw one. -/
  | ident (name : String)
  | literal (text : String)
  /-- One character of an operator, or the mark of a lifetime; a joint one belongs to what
  follows. -/
  | punct (c : Char) (joint : Bool)
  | group (d : Delimiter) (inner : List Token)
  deriving Inhabited

/-- A row of tokens. -/
abbrev Code := List Token

/-! ## 2. Printing -/

namespace Token

/-- No space follows. -/
def isJoint : Token → Bool
  | punct _ joint => joint
  | _ => false

mutual

/-- The characters of a token. -/
def chars : Token → List Char
  | ident name => name.toList
  | literal text => text.toList
  | punct c _ => [c]
  | group .brace inner =>
    '\x7b' :: ' ' :: (rowChars inner ++ (if inner.isEmpty then ['\x7d'] else [' ', '\x7d']))
  | group d inner => d.opening :: (rowChars inner ++ [d.closing])

/-- The characters of a row. -/
def rowChars : List Token → List Char
  | [] => []
  | t :: rest => chars t ++ ((if rest.isEmpty || isJoint t then [] else [' ']) ++ rowChars rest)

end

end Token

/-- The printed text of a row. -/
def Code.text (code : Code) : String := String.ofList (Token.rowChars code)

/-! ## 3. Putting rows together -/

/-- The characters of an operator, joint but for the last. -/
def opChars : List Char → Code
  | [] => []
  | c :: rest => .punct c (!rest.isEmpty) :: opChars rest

/-- An operator. -/
def op (s : String) : Code := opChars s.toList

/-- A lifetime: a mark that is joint with its name. -/
def lifetime (name : String) : Code := [.punct '\x27' true, .ident name]

/-- Words in a row. -/
def words (ws : List String) : Code := ws.map .ident

/-- A path from the root of all crates. -/
def rooted (segments : List String) : Code := segments.flatMap fun s => op "::" ++ [.ident s]

/-- A group in parentheses. -/
def parens (inner : Code) : Code := [.group .paren inner]

/-- A group in square brackets. -/
def brackets (inner : Code) : Code := [.group .bracket inner]

/-- A group in braces. -/
def braces (inner : Code) : Code := [.group .brace inner]

/-- A text as a literal. -/
def literal (s : String) : Code := [.literal (Text.literalText s)]

/-- Rows with a comma behind each. -/
def terminated (rows : List Code) : Code := rows.flatMap fun r => r ++ op ","

/-- Rows with a comma between two. -/
def separated (rows : List Code) : Code := (op ",").intercalate rows

/-- A row in angle brackets. -/
def angles (inner : Code) : Code := op "<" ++ inner ++ op ">"

/-- A description in front of an item. -/
def docLine (s : String) : Code := op "#" ++ brackets (words ["doc"] ++ op "=" ++ literal s)

end TypeMapper
