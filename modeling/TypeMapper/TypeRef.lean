/-!
# Type references

The type of a property, as the analysis of the program reports it: a leaf named by its spelling, an
object of the schema, a collection, a map or a tuple, each of which may be absent.

* `TypeRef.nullable`, `TypeRef.nonNull`: whether the value may be absent, and the type without that.
* `TypeRef.sameShape`: equality that looks at neither absence nor the value semantics of leaves;
  `TypeRef.shape` is the type with both cleared.
* `TypeRef.compare`: the order of types: by kind, then by contents, then by absence.
* `TypeRef.text`: the written form, with a question mark behind a type that may be absent.
-/

namespace TypeMapper

/-! ## 1. Kinds of containers -/

/-- The container of a collection; a sequence leaves the choice to the destination. -/
inductive CollectionKind where
  | array
  | list
  | sequence
  deriving DecidableEq, Repr, Inhabited

namespace CollectionKind

/-- The kinds in order. -/
def all : List CollectionKind := [.array, .list, .sequence]

/-- The name of a kind. -/
def name : CollectionKind → String
  | .array => "Array"
  | .list => "List"
  | .sequence => "Sequence"

/-- The position of a kind in the order. -/
def rank : CollectionKind → Nat
  | .array => 0
  | .list => 1
  | .sequence => 2

end CollectionKind

/-- The container of a map. -/
inductive MapKind where
  | btree
  | hash
  deriving DecidableEq, Repr, Inhabited

namespace MapKind

/-- The kinds in order. -/
def all : List MapKind := [.btree, .hash]

/-- The name of a kind. -/
def name : MapKind → String
  | .btree => "BTree"
  | .hash => "Hash"

/-- The position of a kind in the order. -/
def rank : MapKind → Nat
  | .btree => 0
  | .hash => 1

end MapKind

/-- A text in small letters, of ASCII only. -/
def asciiLower (s : String) : String := String.ofList (s.toList.map Char.toLower)

/-- The kind with a name, in any letter case. -/
def CollectionKind.ofName? (s : String) : Option CollectionKind :=
  CollectionKind.all.find? fun k => asciiLower k.name == asciiLower s

/-- The kind with a name, in any letter case. -/
def MapKind.ofName? (s : String) : Option MapKind :=
  MapKind.all.find? fun k => asciiLower k.name == asciiLower s

/-! ## 2. Types -/

/-- A type; the last argument of each form says whether the value may be absent. -/
inductive TypeRef where
  | scalar (name : String) (byValue : Bool) (nullable : Bool)
  | object (path : String) (nullable : Bool)
  | collection (kind : CollectionKind) (element : TypeRef) (nullable : Bool)
  | map (kind : MapKind) (key value : TypeRef) (nullable : Bool)
  | tuple (elements : List TypeRef) (nullable : Bool)
  deriving Repr, Inhabited

namespace TypeRef

mutual

/-- Decide equality of types. -/
def decEq : (a b : TypeRef) → Decidable (a = b)
  | .scalar m v n, .scalar m' v' n' =>
    if h : m = m' ∧ v = v' ∧ n = n' then isTrue (by simp [h]) else isFalse (by simp; simpa using h)
  | .object p n, .object p' n' =>
    if h : p = p' ∧ n = n' then isTrue (by simp [h]) else isFalse (by simp; simpa using h)
  | .collection k e n, .collection k' e' n' =>
    match decEq e e' with
    | isTrue he =>
      if h : k = k' ∧ n = n' then isTrue (by simp [h, he])
      else isFalse (by simp [he]; simpa using h)
    | isFalse he => isFalse (by simp [he])
  | .map k a b n, .map k' a' b' n' =>
    match decEq a a', decEq b b' with
    | isTrue ha, isTrue hb =>
      if h : k = k' ∧ n = n' then isTrue (by simp [h, ha, hb])
      else isFalse (by simp [ha, hb]; simpa using h)
    | isFalse ha, _ => isFalse (by simp [ha])
    | _, isFalse hb => isFalse (by simp [hb])
  | .tuple es n, .tuple es' n' =>
    match decEqs es es' with
    | isTrue he => if h : n = n' then isTrue (by simp [h, he]) else isFalse (by simp [h])
    | isFalse he => isFalse (by simp [he])
  | .scalar .., .object .. => isFalse (by simp)
  | .scalar .., .collection .. => isFalse (by simp)
  | .scalar .., .map .. => isFalse (by simp)
  | .scalar .., .tuple .. => isFalse (by simp)
  | .object .., .scalar .. => isFalse (by simp)
  | .object .., .collection .. => isFalse (by simp)
  | .object .., .map .. => isFalse (by simp)
  | .object .., .tuple .. => isFalse (by simp)
  | .collection .., .scalar .. => isFalse (by simp)
  | .collection .., .object .. => isFalse (by simp)
  | .collection .., .map .. => isFalse (by simp)
  | .collection .., .tuple .. => isFalse (by simp)
  | .map .., .scalar .. => isFalse (by simp)
  | .map .., .object .. => isFalse (by simp)
  | .map .., .collection .. => isFalse (by simp)
  | .map .., .tuple .. => isFalse (by simp)
  | .tuple .., .scalar .. => isFalse (by simp)
  | .tuple .., .object .. => isFalse (by simp)
  | .tuple .., .collection .. => isFalse (by simp)
  | .tuple .., .map .. => isFalse (by simp)

/-- Decide equality of lists of types. -/
def decEqs : (a b : List TypeRef) → Decidable (a = b)
  | [], [] => isTrue rfl
  | x :: xs, y :: ys =>
    match decEq x y, decEqs xs ys with
    | isTrue h, isTrue hs => isTrue (by rw [h, hs])
    | isFalse h, _ => isFalse (by simp [h])
    | _, isFalse hs => isFalse (by simp [hs])
  | [], _ :: _ => isFalse (by simp)
  | _ :: _, [] => isFalse (by simp)

end

instance : DecidableEq TypeRef := decEq

/-! ## 3. Absence -/

/-- The value may be absent. -/
def nullable : TypeRef → Bool
  | .scalar _ _ n => n
  | .object _ n => n
  | .collection _ _ n => n
  | .map _ _ _ n => n
  | .tuple _ n => n

/-- The type with the given answer to whether its value may be absent. -/
def withNullable (n : Bool) : TypeRef → TypeRef
  | .scalar m v _ => .scalar m v n
  | .object p _ => .object p n
  | .collection k e _ => .collection k e n
  | .map k a b _ => .map k a b n
  | .tuple es _ => .tuple es n

/-- The type of the value once it is known to be there. -/
def nonNull (t : TypeRef) : TypeRef := t.withNullable false

@[simp] theorem nullable_withNullable (n : Bool) (t : TypeRef) :
    (t.withNullable n).nullable = n := by cases t <;> rfl

@[simp] theorem nullable_nonNull (t : TypeRef) : t.nonNull.nullable = false :=
  nullable_withNullable false t

@[simp] theorem withNullable_self (t : TypeRef) : t.withNullable t.nullable = t := by
  cases t <;> rfl

/-! ## 4. Parts -/

/-- The path of an object type. -/
def objectPath? : TypeRef → Option String
  | .object p _ => some p
  | _ => none

/-- The type is a collection. -/
def isCollection : TypeRef → Bool
  | .collection .. => true
  | _ => false

/-- The type is a map. -/
def isMap : TypeRef → Bool
  | .map .. => true
  | _ => false

mutual

/-- The paths of the objects at any depth, outermost first. -/
def objectPaths : TypeRef → List String
  | .scalar .. => []
  | .object p _ => [p]
  | .collection _ e _ => objectPaths e
  | .map _ a b _ => objectPaths a ++ objectPaths b
  | .tuple es _ => objectPathsOf es

/-- The paths of the objects in a list of types. -/
def objectPathsOf : List TypeRef → List String
  | [] => []
  | t :: ts => objectPaths t ++ objectPathsOf ts

end

/-! ## 5. Shape -/

mutual

/-- The types agree but for absence and the value semantics of leaves. -/
def sameShape : TypeRef → TypeRef → Bool
  | .scalar m _ _, .scalar m' _ _ => m == m'
  | .object p _, .object p' _ => p == p'
  | .collection k e _, .collection k' e' _ => k == k' && sameShape e e'
  | .map k a b _, .map k' a' b' _ => k == k' && sameShape a a' && sameShape b b'
  | .tuple es _, .tuple es' _ => sameShapes es es'
  | _, _ => false

/-- Two lists of types agree one by one. -/
def sameShapes : List TypeRef → List TypeRef → Bool
  | [], [] => true
  | t :: ts, u :: us => sameShape t u && sameShapes ts us
  | _, _ => false

end

mutual

/-- The type with absence and the value semantics of leaves cleared at every depth. -/
def shape : TypeRef → TypeRef
  | .scalar m _ _ => .scalar m false false
  | .object p _ => .object p false
  | .collection k e _ => .collection k (shape e) false
  | .map k a b _ => .map k (shape a) (shape b) false
  | .tuple es _ => .tuple (shapes es) false

/-- The shapes of a list of types. -/
def shapes : List TypeRef → List TypeRef
  | [] => []
  | t :: ts => shape t :: shapes ts

end

/-! ## 6. Order -/

/-- The order of truth values: false comes first. -/
def compareBool : Bool → Bool → Ordering
  | false, true => .lt
  | true, false => .gt
  | _, _ => .eq

/-- The position of a kind of type in the order. -/
def rank : TypeRef → Nat
  | .scalar .. => 0
  | .object .. => 1
  | .collection .. => 2
  | .map .. => 3
  | .tuple .. => 4

mutual

/-- The order of types, absence last in weight. -/
def compare : TypeRef → TypeRef → Ordering
  | .scalar m v n, .scalar m' v' n' =>
    ((Ord.compare m m').then (compareBool v v')).then (compareBool n n')
  | .object p n, .object p' n' => (Ord.compare p p').then (compareBool n n')
  | .collection k e n, .collection k' e' n' =>
    ((Ord.compare k.rank k'.rank).then (compare e e')).then (compareBool n n')
  | .map k a b n, .map k' a' b' n' =>
    (((Ord.compare k.rank k'.rank).then (compare a a')).then (compare b b')).then
      (compareBool n n')
  | .tuple es n, .tuple es' n' => (compareAll es es').then (compareBool n n')
  | t, u => Ord.compare t.rank u.rank

/-- The order of lists of types: the first difference decides, and a shorter list comes first. -/
def compareAll : List TypeRef → List TypeRef → Ordering
  | [], [] => .eq
  | [], _ :: _ => .lt
  | _ :: _, [] => .gt
  | t :: ts, u :: us => (compare t u).then (compareAll ts us)

end

instance : Ord TypeRef := ⟨compare⟩

/-! ## 7. Written form -/

/-- The mark of a type whose value may be absent. -/
def nullMark (n : Bool) : String := if n then "?" else ""

mutual

/-- The written form of a type. -/
def text : TypeRef → String
  | .scalar m _ n => m ++ nullMark n
  | .object p n => p ++ nullMark n
  | .collection k e n => k.name ++ "<" ++ text e ++ ">" ++ nullMark n
  | .map k a b n => k.name ++ "Map<" ++ text a ++ ", " ++ text b ++ ">" ++ nullMark n
  | .tuple es n => "(" ++ texts es ++ ")" ++ nullMark n

/-- The written forms of types between commas. -/
def texts : List TypeRef → String
  | [] => ""
  | [t] => text t
  | t :: u :: ts => text t ++ ", " ++ texts (u :: ts)

end

end TypeRef

end TypeMapper
