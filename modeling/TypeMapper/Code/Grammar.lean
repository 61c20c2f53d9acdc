import TypeMapper.Code.Grammar.Import
import TypeMapper.Code.Grammar.Operand
import TypeMapper.Code.Grammar.Statement
/-!
# Names, paths, types and imports

Texts that a schema gives for code are read by the grammar of the generated language and written
again token by token. What the grammar refuses cannot be spelled.

* `Grammar.rule`: one step of the grammar for each kind of phrase; `Grammar.parse` ties the steps
  together, to a depth that the number of tokens bounds.
* `Code.name?`, `Code.path?`, `Code.type?`, `Code.importTree?`: the phrases of a whole text.
-/

namespace TypeMapper

namespace Grammar

/-- One step of the grammar. -/
def rule (r : Rules) : Rules
  | .type plus => typeRule r plus
  | .bound captures conditional => boundRule r captures conditional
  | .expression structs => expressionRule r structs
  | .operand structs => operandRule r structs
  | .early => earlyRule r
  | .pattern choice => patternRule r choice
  | .statements => statementsRule r
  | .fields => fieldsRule r
  | .item => itemRule r
  | .importTree root => importRule r root

/-- The grammar to a depth. -/
def parse : Nat → Rules
  | 0, _, _ => none
  | depth + 1, p, ts => rule (parse depth) p ts

/-- The depth that suffices for a text of some length: no phrase contains more than a few others
that start where it does. -/
def depthOf (s : String) : Nat := 8 * s.length + 8

/-- What is written for the phrase that a text is. -/
def phrase? (p : Rules → Parse Code) (s : String) : Option Code :=
  (Code.read? s).bind (whole (p (parse (depthOf s))))

end Grammar

namespace Code

/-- The name that a text is; a keyword is a raw name. -/
def name? (s : String) : Option String :=
  let read (s : String) : Option String :=
    match Grammar.phrase? (fun _ => Grammar.name) s with
    | some [.ident w] => some w
    | _ => none
  (read s).or (read ("r#" ++ s))

/-- The path that a text is. -/
def path? (s : String) : Option Code :=
  Grammar.phrase? (fun r => do return (← Grammar.path r false).code) s

/-- The type that a text is. -/
def type? (s : String) : Option Code := Grammar.phrase? (fun r => r.code (.type true)) s

/-- The import that a text is. -/
def importTree? (s : String) : Option Code :=
  Grammar.phrase? (fun r => r.code (.importTree false)) s

end Code

end TypeMapper
