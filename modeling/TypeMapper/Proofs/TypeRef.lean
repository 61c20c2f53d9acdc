import TypeMapper.TypeRef
/-!
# Types of the same shape

Whether a value may be absent and whether a leaf is handed over by value are marks on a type. Two
types have the same shape if they differ in their marks at most, at any depth, so having the same
shape is an equivalence. A type is determined by its shape and its marks; the type that
`TypeRef.shape` makes is the one of its shape that has no mark set.

* `TypeRef.sameShape_iff`, `sameShapes_iff`: the comparison is equality of what is cleared.
* `TypeRef.sameShape_congr`: types of one shape compare alike.
* `TypeRef.marks`: the marks of a type in reading order.
* `TypeRef.eq_iff_sameShape`, `eq_shape_iff`: what a shape leaves out, and what stands for it.
* `TypeRef.sameShape_equivalence`: the comparison of shapes as a whole.
-/

namespace TypeMapper.TypeRef

/-! ## 1. Comparing shapes -/

mutual

/-- **Types have the same shape** if and only if they are equal once their marks are cleared. -/
theorem sameShape_iff : ∀ a b : TypeRef, a.sameShape b = true ↔ a.shape = b.shape
  | .scalar .., b => by cases b <;> simp [sameShape, shape]
  | .object .., b => by cases b <;> simp [sameShape, shape]
  | .collection _ e _, b => by
      cases b with
      | collection k' e' n' => simp [sameShape, shape, sameShape_iff e e']
      | _ => simp [sameShape, shape]
  | .map _ k v _, b => by
      cases b with
      | map m' k' v' n' => simp [sameShape, shape, sameShape_iff k k', sameShape_iff v v', and_assoc]
      | _ => simp [sameShape, shape]
  | .tuple es _, b => by
      cases b with
      | tuple es' n' => simp [sameShape, shape, sameShapes_iff es es']
      | _ => simp [sameShape, shape]

/-- Lists of types agree one by one if and only if they are equal once their marks are cleared. -/
theorem sameShapes_iff : ∀ ts us : List TypeRef, sameShapes ts us = true ↔ shapes ts = shapes us
  | [], us => by cases us <;> simp [sameShapes, shapes]
  | t :: ts, us => by
      cases us with
      | nil => simp [sameShapes, shapes]
      | cons u us => simp [sameShapes, shapes, sameShape_iff t u, sameShapes_iff ts us]

end

theorem shapes_eq_map (ts : List TypeRef) : shapes ts = ts.map shape := by
  induction ts with
  | nil => rfl
  | cons t ts ih => rw [shapes, ih, List.map_cons]

@[simp] theorem sameShape_refl (t : TypeRef) : t.sameShape t = true := (sameShape_iff t t).mpr rfl

/-- A comparison comes out the same for any two types of one shape. -/
theorem sameShape_congr {a b : TypeRef} (h : a.sameShape b = true) (t : TypeRef) :
    t.sameShape a = t.sameShape b := by
  rw [Bool.eq_iff_iff, sameShape_iff, sameShape_iff, (sameShape_iff a b).mp h]

/-- Only lists of one length agree one by one. -/
theorem length_eq_of_sameShapes {ts us : List TypeRef} (h : sameShapes ts us = true) :
    ts.length = us.length := by
  have hshapes := (sameShapes_iff ts us).mp h
  rw [shapes_eq_map, shapes_eq_map] at hshapes
  simpa using congrArg List.length hshapes

/-! ## 2. Marks -/

mutual

/-- The marks of a type in reading order: of each part whether its value may be absent, and of a
leaf also whether it is handed over by value. -/
def marks : TypeRef → List Bool
  | .scalar _ v n => [v, n]
  | .object _ n => [n]
  | .collection _ e n => n :: marks e
  | .map _ k v n => n :: (marks k ++ marks v)
  | .tuple es n => n :: marksOf es

/-- The marks of types in a row. -/
def marksOf : List TypeRef → List Bool
  | [] => []
  | t :: ts => marks t ++ marksOf ts

end

mutual

/-- A shape has as many marks as its type, and none of them is set. -/
theorem marks_shape : ∀ t : TypeRef, t.shape.marks = t.marks.map fun _ => false
  | .scalar .. => rfl
  | .object .. => rfl
  | .collection _ e _ => by simp [shape, marks, marks_shape e]
  | .map _ k v _ => by simp [shape, marks, marks_shape k, marks_shape v]
  | .tuple es _ => by simp [shape, marks, marksOf_shapes es]

theorem marksOf_shapes : ∀ ts : List TypeRef, marksOf (shapes ts) = (marksOf ts).map fun _ => false
  | [] => rfl
  | t :: ts => by simp [shapes, marksOf, marks_shape t, marksOf_shapes ts]

end

/-- Types of one shape have their marks at the same places. -/
theorem length_marks_of_sameShape {a b : TypeRef} (h : a.sameShape b = true) :
    a.marks.length = b.marks.length := by
  have hmarks := congrArg marks ((sameShape_iff a b).mp h)
  rw [marks_shape, marks_shape] at hmarks
  simpa using congrArg List.length hmarks

mutual

/-- **A type is determined by its shape and its marks.** -/
theorem eq_of_shape_of_marks : ∀ a b : TypeRef, a.shape = b.shape → a.marks = b.marks → a = b
  | .scalar .., b, hshape, hmarks => by cases b <;> simp_all [shape, marks]
  | .object .., b, hshape, hmarks => by cases b <;> simp_all [shape, marks]
  | .collection _ e _, b, hshape, hmarks => by
      cases b with
      | collection k' e' n' =>
          simp only [shape, marks, collection.injEq, List.cons.injEq, and_true] at hshape hmarks
          simp [hshape.1, hmarks.1, eq_of_shape_of_marks e e' hshape.2 hmarks.2]
      | _ => simp [shape] at hshape
  | .map _ k v _, b, hshape, hmarks => by
      cases b with
      | map m' k' v' n' =>
          simp only [shape, marks, map.injEq, List.cons.injEq, and_true] at hshape hmarks
          obtain ⟨hkind, hk, hv⟩ := hshape
          have hlength := length_marks_of_sameShape ((sameShape_iff k k').mpr hk)
          obtain ⟨hkeys, hvalues⟩ := List.append_inj hmarks.2 hlength
          simp [hkind, hmarks.1, eq_of_shape_of_marks k k' hk hkeys,
            eq_of_shape_of_marks v v' hv hvalues]
      | _ => simp [shape] at hshape
  | .tuple es _, b, hshape, hmarks => by
      cases b with
      | tuple es' n' =>
          simp only [shape, marks, tuple.injEq, List.cons.injEq, and_true] at hshape hmarks
          simp [hmarks.1, eq_of_shapes_of_marks es es' hshape hmarks.2]
      | _ => simp [shape] at hshape

theorem eq_of_shapes_of_marks : ∀ ts us : List TypeRef, shapes ts = shapes us →
    marksOf ts = marksOf us → ts = us
  | [], us, hshape, _ => by cases us <;> simp_all [shapes]
  | t :: ts, us, hshape, hmarks => by
      cases us with
      | nil => simp [shapes] at hshape
      | cons u us =>
          simp only [shapes, marksOf, List.cons.injEq] at hshape hmarks
          have hlength := length_marks_of_sameShape ((sameShape_iff t u).mpr hshape.1)
          obtain ⟨hfirst, hrest⟩ := List.append_inj hmarks hlength
          rw [eq_of_shape_of_marks t u hshape.1 hfirst, eq_of_shapes_of_marks ts us hshape.2 hrest]

end

/-- **Identical types** are those that have the same shape and the same marks. -/
theorem eq_iff_sameShape {a b : TypeRef} : a = b ↔ a.sameShape b = true ∧ a.marks = b.marks := by
  constructor
  · rintro rfl
    exact ⟨sameShape_refl a, rfl⟩
  · rintro ⟨hshape, hmarks⟩
    exact eq_of_shape_of_marks a b ((sameShape_iff a b).mp hshape) hmarks

/-! ## 3. Shapes -/

mutual

/-- Nothing is left to clear of a shape. -/
@[simp] theorem shape_shape : ∀ t : TypeRef, t.shape.shape = t.shape
  | .scalar .. => rfl
  | .object .. => rfl
  | .collection _ e _ => by rw [shape, shape, shape_shape e]
  | .map _ k v _ => by rw [shape, shape, shape_shape k, shape_shape v]
  | .tuple es _ => by rw [shape, shape, shapes_shapes es]

@[simp] theorem shapes_shapes : ∀ ts : List TypeRef, shapes (shapes ts) = shapes ts
  | [] => rfl
  | t :: ts => by rw [shapes, shapes, shape_shape t, shapes_shapes ts]

end

/-- **The shape of a type** is the type of the same shape in which no mark is set. -/
theorem eq_shape_iff {s t : TypeRef} :
    s = t.shape ↔ s.sameShape t = true ∧ ∀ mark ∈ s.marks, mark = false := by
  constructor
  · rintro rfl
    refine ⟨(sameShape_iff _ t).mpr (shape_shape t), fun mark hmark => ?_⟩
    rw [marks_shape] at hmark
    obtain ⟨_, -, rfl⟩ := List.mem_map.mp hmark
    rfl
  · rintro ⟨hshape, hclear⟩
    have hmarks : s.marks = s.shape.marks := by
      rw [marks_shape]
      exact (List.map_id s.marks).symm.trans (List.map_congr_left hclear)
    calc s = s.shape := eq_of_shape_of_marks s s.shape (shape_shape s).symm hmarks
      _ = t.shape := (sameShape_iff s t).mp hshape

/-- **The comparison of shapes** holds between the types that are equal once absence and the value
semantics of leaves are cleared at every depth. So it is an equivalence, and identical types are the
ones that it holds between and whose marks agree as well. -/
theorem sameShape_equivalence :
    (∀ a b : TypeRef, a.sameShape b = true ↔ a.shape = b.shape) ∧
      Equivalence (fun a b : TypeRef => a.sameShape b = true) ∧
      ∀ a b : TypeRef, a = b ↔ a.sameShape b = true ∧ a.marks = b.marks := by
  refine ⟨sameShape_iff, ⟨sameShape_refl, fun {a b} h => ?_, fun {a b c} hab hbc => ?_⟩,
    fun a b => eq_iff_sameShape⟩
  · exact (sameShape_iff b a).mpr ((sameShape_iff a b).mp h).symm
  · have hclear := ((sameShape_iff a b).mp hab).trans ((sameShape_iff b c).mp hbc)
    exact (sameShape_iff a c).mpr hclear

/-- Texts that may be absent in a list, and a list of texts that may be absent. -/
example : (TypeRef.collection .list (.scalar "String" false true) false).sameShape
    (.collection .list (.scalar "String" true false) true) = true := by decide

end TypeMapper.TypeRef
