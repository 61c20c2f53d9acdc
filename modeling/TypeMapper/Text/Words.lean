import TypeMapper.Text.Casing
import TypeMapper.Text.Cluster
/-!
# Words of a name

A name in any letter case falls into words, which `snakeCase` writes in lower case between
underscores. A word ends at an underscore, a hyphen or a space, which is dropped; between a lower
and an upper letter; between a letter and a digit; and before the last capital of a run of capitals
that a lower letter follows. Letters are clusters, so an accented letter is one letter however it is
written; digits are those of ASCII.

* `words`: the words, empty ones included.
* `snakeCase`: `HTTPServerV2` becomes `http_server_v_2`.
-/

namespace TypeMapper.Text

/-! ## 1. Classes of clusters -/

/-- The cluster is a capital: lower case changes it and upper case does not. -/
def isUpperCluster (g : List Char) : Bool := !g.any hasUpperForm && g.any hasLowerForm

/-- The cluster is a small letter: upper case changes it and lower case does not. -/
def isLowerCluster (g : List Char) : Bool := !g.any hasLowerForm && g.any hasUpperForm

/-- The cluster is a digit. -/
def isDigitCluster (g : List Char) : Bool := g.all Char.isDigit

/-- The cluster stands between words and belongs to neither. -/
def isSeparator (g : List Char) : Bool := g == ['_'] || g == ['-'] || g == [' ']

/-! ## 2. Word boundaries -/

/-- A word ends after a cluster that these clusters follow. -/
def endsWord (g : List Char) : List (List Char) → Bool
  | [] => false
  | h :: rest =>
    (isLowerCluster g && isUpperCluster h)
      || (isLowerCluster g && isDigitCluster h)
      || (isUpperCluster g && isDigitCluster h)
      || (isDigitCluster g && isLowerCluster h)
      || (isDigitCluster g && isUpperCluster h)
      || (isUpperCluster g && isUpperCluster h && (rest.head?.map isLowerCluster).getD false)

/-- The words of the clusters, the first of which goes on from `word`. -/
def wordsFrom (word : List Char) : List (List Char) → List (List Char)
  | [] => [word]
  | g :: rest =>
    if isSeparator g then word :: wordsFrom [] rest
    else if endsWord g rest then (word ++ g) :: wordsFrom [] rest
    else wordsFrom (word ++ g) rest

/-- The words of a text. -/
def words (cs : List Char) : List (List Char) := wordsFrom [] (clusters cs)

/-! ## 3. Snake case -/

/-- The words of a text in lower case, joined by underscores. -/
def snakeCase (s : String) : String :=
  "_".intercalate ((words s.toList).map fun w => String.ofList (lowerText w))

end TypeMapper.Text
