import TypeMapper.Text.Name
/-!
# Words

A word is a name character that may start a name and all the name characters behind it. A word with
the mark of a raw name in front is never read as a keyword; a few words take no such mark.

* `Word.plain?`: a word without a mark.
* `Word.read?`: a word, perhaps a raw one.
-/

namespace TypeMapper.Word

/-- A word without a mark, and what follows it. -/
def plain? : List Char → Option (List Char × List Char)
  | [] => none
  | c :: rest =>
    if Text.isNameStart c then
      some (c :: rest.takeWhile Text.isNamePart, rest.dropWhile Text.isNamePart)
    else none

/-- The words that cannot be raw names. -/
def neverRaw : List String := ["_", "super", "self", "Self", "crate"]

/-- A word, perhaps a raw one, and what follows it. -/
def read? : List Char → Option (List Char × List Char)
  | 'r' :: '#' :: rest =>
    match plain? rest with
    | some (w, rest) =>
      if neverRaw.contains (String.ofList w) then none else some ('r' :: '#' :: w, rest)
    | none => none
  | cs => plain? cs

/-- What follows the word that stands at the start, if one does. -/
def after (cs : List Char) : List Char :=
  match plain? cs with
  | some (_, rest) => rest
  | none => cs

end TypeMapper.Word
