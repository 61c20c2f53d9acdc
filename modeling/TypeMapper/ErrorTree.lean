/-!
# Trees of messages

Validation collects messages under routes. A tree holds the messages of its own place and, in the
order of their names, the trees of the places below; an empty tree is never put below another.

* `ErrorTree.addFor`: put a tree below a route; `ErrorTree.merge`: fold one tree into another.
* `ErrorTree.flatten`: every message with its route, the view of a tree.
* `ErrorTree.text`: the messages in one line.
-/

namespace TypeMapper

/-- Messages of one place and the trees of the places below it, in the order of their names. -/
inductive ErrorTree where
  | node (messages : List String) (children : List (String × ErrorTree))
  deriving Repr, Inhabited

namespace ErrorTree

/-! ## 1. Parts -/

/-- The tree without messages. -/
def empty : ErrorTree := .node [] []

/-- The messages of the place itself. -/
def messages : ErrorTree → List String
  | .node ms _ => ms

/-- The trees of the places below. -/
def children : ErrorTree → List (String × ErrorTree)
  | .node _ cs => cs

mutual

/-- The tree holds no message at any place. -/
def isEmpty : ErrorTree → Bool
  | .node ms cs => ms.isEmpty && areEmpty cs

/-- No tree of a list holds a message. -/
def areEmpty : List (String × ErrorTree) → Bool
  | [] => true
  | (_, t) :: rest => isEmpty t && areEmpty rest

end

mutual

/-- The number of messages at all places. -/
def size : ErrorTree → Nat
  | .node ms cs => ms.length + sizes cs

/-- The number of messages in a list of trees. -/
def sizes : List (String × ErrorTree) → Nat
  | [] => 0
  | (_, t) :: rest => size t + sizes rest

end

/-! ## 2. Building -/

/-- Change the tree under a name, starting from the empty tree if there is none. -/
def updateChild (name : String) (f : ErrorTree → ErrorTree) :
    List (String × ErrorTree) → List (String × ErrorTree)
  | [] => [(name, f empty)]
  | (n, t) :: rest =>
    if name = n then (n, f t) :: rest
    else if name < n then (name, f empty) :: (n, t) :: rest
    else (n, t) :: updateChild name f rest

/-- Change the tree below a route. -/
def update (route : String) (f : ErrorTree → ErrorTree) : ErrorTree → ErrorTree
  | .node ms cs => .node ms (updateChild route f cs)

/-- Add a message at the place itself. -/
def add (t : ErrorTree) (message : String) : ErrorTree := .node (t.messages ++ [message]) t.children

mutual

/-- Fold every message of the second tree into the first. -/
def merge : ErrorTree → ErrorTree → ErrorTree
  | t, .node ms cs => mergeChildren (.node (t.messages ++ ms) t.children) cs

/-- Put each tree of a list below its name. -/
def mergeChildren : ErrorTree → List (String × ErrorTree) → ErrorTree
  | t, [] => t
  | t, (name, c) :: rest =>
    mergeChildren (if isEmpty c then t else update name (fun old => merge old c) t) rest

end

/-- Fold a tree into the tree below a route; an empty tree leaves no trace. -/
def addFor (t : ErrorTree) (route : String) (child : ErrorTree) : ErrorTree :=
  if child.isEmpty then t else t.update route fun old => merge old child

/-- The tree as the outcome of a check. -/
def result (t : ErrorTree) : Except ErrorTree Unit := if t.isEmpty then .ok () else .error t

/-- Fold the outcome of a check into the tree below a route. -/
def addResult (t : ErrorTree) (route : String) : Except ErrorTree Unit → ErrorTree
  | .ok () => t
  | .error child => t.addFor route child

/-! ## 3. Views -/

/-- The route of a place below another. -/
def joinRoute (route name : String) : String := if route = "" then name else route ++ "/" ++ name

mutual

/-- Every message with its route, from a place on. -/
def flattenAt (route : String) : ErrorTree → List (String × String)
  | .node ms cs => ms.map (fun m => (route, m)) ++ flattenAll route cs

/-- Every message of the trees below a route. -/
def flattenAll (route : String) : List (String × ErrorTree) → List (String × String)
  | [] => []
  | (name, t) :: rest => flattenAt (joinRoute route name) t ++ flattenAll route rest

end

/-- Every message with its route. -/
def flatten (t : ErrorTree) : List (String × String) := flattenAt "" t

/-- The messages in one line, each behind its route. -/
def text (t : ErrorTree) : String :=
  "; ".intercalate (t.flatten.map fun p => if p.1 = "" then p.2 else p.1 ++ ": " ++ p.2)

@[simp] theorem isEmpty_empty : empty.isEmpty = true := rfl

@[simp] theorem flatten_empty : empty.flatten = [] := rfl

end ErrorTree

end TypeMapper
