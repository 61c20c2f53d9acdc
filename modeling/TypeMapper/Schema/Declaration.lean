import TypeMapper.Directive
import TypeMapper.TypePath
import TypeMapper.TypeRef
/-!
# Declarations

What a schema declares: types with their properties and methods, and resolvers.

* `Property`: a property with its type, its access and its directives.
* `Method`: a function of a type; its first parameter is the value it converts.
* `TypeDecl`: a type with an optional base type.
* `Resolver`: an external converter, whose constructor parameters become parameters of the routine.
-/

namespace TypeMapper

/-! ## 1. Properties -/

/-- Whether a property can be read and written. -/
structure Access where
  readable : Bool
  settable : Bool
  deriving DecidableEq, Repr

/-- A property of a type. -/
structure Property where
  name : String
  ty : TypeRef
  byValue : Bool
  access : Access
  directives : List DirectiveEntry
  deriving DecidableEq, Repr

instance : Inhabited Property := ⟨⟨"", default, false, ⟨true, true⟩, []⟩⟩

/-- The value of a property may be absent. -/
def Property.nullable (p : Property) : Bool := p.ty.nullable

/-! ## 2. Methods and resolvers -/

/-- A parameter of a method or of a resolver's constructor. -/
structure Parameter where
  name : String
  ty : TypeRef
  hasDefault : Bool
  deriving DecidableEq, Repr, Inhabited

/-- A function of a type. -/
structure Method where
  name : String
  parameters : List Parameter
  returns : TypeRef
  isAsync : Bool
  deriving DecidableEq, Repr, Inhabited

/-- The parameter that receives the value to convert. -/
def Method.subject? (m : Method) : Option Parameter := m.parameters.head?

/-- The parameters behind the subject that callers have to supply. -/
def Method.extras (m : Method) : List Parameter := m.parameters.tail.filter fun p => !p.hasDefault

/-- An external type that converts values. -/
structure Resolver where
  path : String
  parameters : List Parameter
  source : TypeRef
  destination : TypeRef
  isAsync : Bool
  deriving DecidableEq, Repr, Inhabited

/-! ## 3. Types -/

/-- A declared type. -/
structure TypeDecl where
  path : String
  base : Option String
  byValue : Bool
  constructible : Bool
  properties : List Property
  directives : List DirectiveEntry
  methods : List Method
  deriving DecidableEq, Repr

instance : Inhabited TypeDecl := ⟨⟨"", none, false, true, [], [], []⟩⟩

namespace TypeDecl

/-- The property that the type itself declares under a name. -/
def property? (t : TypeDecl) (name : String) : Option Property :=
  t.properties.find? fun p => p.name == name

/-- The methods that the type itself declares under a name. -/
def methodsNamed (t : TypeDecl) (name : String) : List Method :=
  t.methods.filter fun m => m.name == name

end TypeDecl

end TypeMapper
