import Mathlib.Order.MinMax
import TypeMapper.Proofs.Json.Decoded
import TypeMapper.Proofs.Schema.Written
/-!
# What is decoded of a schema nests within the budget

A decoded schema is written again in at most as many arrays and objects inside each other as its
text was allowed to have. For types this is exact: a part must be given, and it is decoded with one
less. Declarations may leave out fields that are written nevertheless, but these are flat.

* `TypeRef.gives_decode`: a type is written within its budget.
* `TypeDecl.keeps`, `Resolver.keeps`: declarations are, or they are flat.
* `Schema.keeps_lists`: so are the lists of a schema.
-/

namespace TypeMapper

open Json

/-! ## 1. Type references -/

namespace TypeRef

variable {b : Nat} {d : Decoder TypeRef}

/-- A type of a kind nests within the budget if its parts do: these must be given. -/
theorem gives_ofKind (hd : ∀ v, Gives (fun t : TypeRef => t.toJson.height ≤ b) (d b v))
    (hlist : ∀ v, Gives (fun ts => (list toJson ts).height ≤ b) (Decoder.listOf d b v))
    (nullable : Bool) (members : Members) (i : Nat) :
    Gives (fun t : TypeRef => t.toJson.height ≤ b + 1) (ofKind d b nullable members i) := by
  unfold ofKind
  split
  · refine (gives_true _).bind fun s _ => gives_ok ?_
    simp [toJson, height_obj_le_succ_iff]
  · refine (gives_true _).bind fun p _ => gives_ok ?_
    simp [toJson, height_obj_le_succ_iff]
  · have hfields : Preserves (fun met s => "element" ∈ met → s.2.toJson.height ≤ b) b
        (collectionFields d) :=
      .aside (.field hd (fun _ _ _ hx _ _ => hx) .nil)
        fun _ _ _ hs hmem => hs (by simpa using hmem)
    refine (gives_variant hfields (absurd · List.not_mem_nil) members).bind fun s hs => gives_ok ?_
    obtain ⟨met, hs, hreq⟩ := hs
    have he := hs (hreq "element" (.head _))
    simp [toJson, height_obj_le_succ_iff, he]
  · have hfields : Preserves (fun met s => ("key" ∈ met → s.2.1.toJson.height ≤ b) ∧
        ("value" ∈ met → s.2.2.toJson.height ≤ b)) b (mapFields d) :=
      .aside (.field hd (fun _ _ _ hx hs => ⟨fun _ => hx, fun hmem => hs.2 (by simpa using hmem)⟩)
          (.field hd (fun _ _ _ hx hs => ⟨fun hmem => hs.1 (by simpa using hmem), fun _ => hx⟩)
            .nil))
        fun _ _ _ hs => ⟨fun hmem => hs.1 (by simpa using hmem),
          fun hmem => hs.2 (by simpa using hmem)⟩
    have hblank : ∀ name : String, name ∉ [] := fun name => List.not_mem_nil
    refine (gives_variant hfields ⟨(absurd · (hblank "key")), (absurd · (hblank "value"))⟩
      members).bind fun s hs => gives_ok ?_
    obtain ⟨met, hs, hreq⟩ := hs
    have hkey := hs.1 (hreq "key" (.head _))
    have hvalue := hs.2 (hreq "value" (.tail _ (.head _)))
    simp [toJson, height_obj_le_succ_iff, hkey, hvalue]
  · have hfields : Preserves (fun met s => "elements" ∈ met → (list toJson s).height ≤ b) b
        (tupleFields d) := .field hlist (fun _ _ _ hx _ _ => hx) .nil
    refine (gives_variant hfields (absurd · List.not_mem_nil) members).bind
      fun ts hs => gives_ok ?_
    obtain ⟨met, hs, hreq⟩ := hs
    have hts := hs (hreq "elements" (.head _))
    rw [list] at hts
    simp [toJson, toJsons_eq_map, height_obj_le_succ_iff, hts]

theorem gives_flattened {β : Type} {own typeName : String} {d : Decoder β} (v : Reading) :
    Gives (fun _ => 0 < b) (flattened typeName own d b v) := by
  unfold flattened
  split
  · exact gives_error _
  · exact fun _ _ => Nat.succ_pos _
  · exact gives_mismatch _ _

/-- What is decoded to a depth nests within the budget. -/
theorem gives_decodeWithin (fuel : Nat) (b : Nat) (v : Reading) :
    Gives (fun t => t.toJson.height ≤ b) (decodeWithin fuel b v) := by
  induction fuel generalizing b v with
  | zero => exact gives_error _
  | succ fuel ih =>
      refine (gives_flattened v).bind fun r hb => (gives_true _).bind fun q _ => ?_
      obtain ⟨b, rfl⟩ := Nat.exists_eq_add_one.mpr hb
      refine gives_ofKind (ih b) (fun v => ?_) _ _ _
      exact (gives_listOf ih b v).imp fun ts hts => height_list_le_iff.mpr hts

/-- **A type is written within the budget it was decoded with.** -/
theorem gives_decode (b : Nat) (v : Reading) :
    Gives (fun t => t.toJson.height ≤ b) (decode b v) := gives_decodeWithin (b + 1) b v

theorem keeps : Keeps 1 decode toJson := fun b v =>
  (gives_decode b v).imp fun _ ht => Nat.le_trans ht (Nat.le_max_left b 1)

end TypeRef

/-! ## 2. Directives -/

/-- An entry is flat, but for a list of names. -/
theorem DirectiveEntry.height_toJson_le (e : DirectiveEntry) : e.toJson.height ≤ 2 := by
  have hfields : ∀ m ∈ e.directive.fields, m.2.height ≤ 1 := by
    cases e.directive with
    | ignoreTargetNames names =>
        exact List.forall_mem_singleton.mpr
          (height_list_le_succ_iff.mpr fun _ _ => Nat.le_refl 0)
    | _ => simp [Directive.fields]
  have hindex : ∀ m ∈ Json.optional "index" (fun i : UInt32 => nat i.toNat) e.index,
      m.2.height ≤ 1 :=
    forall_mem_optional (P := fun v => v.height ≤ 1) (by simp) "index" e.index
  refine height_obj_le_succ_iff.mpr (List.forall_mem_append.mpr ⟨?_, hindex⟩)
  exact List.forall_mem_cons.mpr ⟨Nat.zero_le 1, hfields⟩

/-- So entries behind each other come to a height of three. -/
theorem forall_mem_directives (es : List DirectiveEntry) :
    ∀ m ∈ unlessEmpty "directives" DirectiveEntry.toJson es, m.2.height ≤ 3 :=
  forall_mem_unlessEmpty (P := fun v => v.height ≤ 3)
    (height_list_le_succ_iff.mpr fun e _ => e.height_toJson_le) "directives"

/-! ## 3. Declarations -/

/- What a declaration leaves out is flat: a type that is not given counts one, and each list or
object around it one more. -/

theorem Property.keeps : Keeps 4 decode toJson := by
  refine keeps_record "PropertyDescriptor" .skip (P := fun b p => p.ty.toJson.height ≤ max b 3)
    (fun b => ?fields) (fun b => le_max_of_le_right (by decide)) fun b p hty => ?written
  case fields =>
    exact .aside (.field (TypeRef.keeps.mono (by decide) b) (fun _ _ _ h _ => h)
      (.aside (.aside (.aside .nil))))
  case written =>
    have haccess : p.access.toJson.height ≤ max b 3 :=
      le_max_of_le_right (height_obj_le_succ_iff.mpr (by simp))
    refine List.forall_mem_append.mpr ⟨by simpa using And.intro hty haccess, fun m hm => ?_⟩
    exact Nat.le_trans (forall_mem_directives p.directives m hm) (Nat.le_max_right b 3)

theorem Parameter.keeps : Keeps 2 decode toJson := by
  refine keeps_record "ParameterDescriptor" .skip (P := fun b p => p.ty.toJson.height ≤ max b 1)
    (fun b => ?fields) (fun b => Nat.le_max_right b 1) fun b p hty => ?written
  case fields => exact .aside (.field (TypeRef.keeps b) (fun _ _ _ h _ => h) (.aside .nil))
  case written => simpa using hty

theorem Method.keeps : Keeps 4 decode toJson := by
  refine keeps_record "MethodDescriptor" .skip
    (P := fun b (m : Method) => (list Parameter.toJson m.parameters).height ≤ max b 3 ∧
      m.returns.toJson.height ≤ max b 3)
    (fun b => ?fields)
    (fun b => ⟨le_max_of_le_right (by decide), le_max_of_le_right (by decide)⟩)
    fun b m hm => ?written
  case fields =>
    exact .aside (.field (Parameter.keeps.list b) (fun _ _ _ h hs => ⟨h, hs.2⟩)
      (.field (TypeRef.keeps.mono (by decide) b) (fun _ _ _ h hs => ⟨hs.1, h⟩) (.aside .nil)))
  case written => simpa using hm

theorem Resolver.keeps : Keeps 4 decode toJson := by
  have htype := TypeRef.keeps.mono (by decide : 1 ≤ 3)
  refine keeps_record "ResolverDescriptor" .skip
    (P := fun b (r : Resolver) => (list Parameter.toJson r.parameters).height ≤ max b 3 ∧
      r.source.toJson.height ≤ max b 3 ∧ r.destination.toJson.height ≤ max b 3)
    (fun b => ?fields)
    (fun b => ⟨le_max_of_le_right (by decide), le_max_of_le_right (by decide),
      le_max_of_le_right (by decide)⟩)
    fun b r hr => ?written
  case fields =>
    exact .aside (.field (Parameter.keeps.list b) (fun _ _ _ h hs => ⟨h, hs.2⟩)
      (.field (htype b) (fun _ _ _ h hs => ⟨hs.1, h, hs.2.2⟩)
        (.field (htype b) (fun _ _ _ h hs => ⟨hs.1, hs.2.1, h⟩) (.aside .nil))))
  case written => simpa using hr

theorem TypeDecl.keeps : Keeps 6 decode toJson := by
  refine keeps_record "TypeDescriptor" .skip
    (P := fun b (t : TypeDecl) => (list Property.toJson t.properties).height ≤ max b 5 ∧
      (list Method.toJson t.methods).height ≤ max b 5)
    (fun b => ?fields)
    (fun b => ⟨le_max_of_le_right (by decide), le_max_of_le_right (by decide)⟩)
    fun b t ⟨hproperties, hmethods⟩ => ?written
  case fields =>
    exact .aside (.aside (.aside (.aside
      (.field (Property.keeps.list b) (fun _ _ _ h hs => ⟨h, hs.2⟩)
        (.aside (.field (Method.keeps.list b) (fun _ _ _ h hs => ⟨hs.1, h⟩) .nil))))))
  case written =>
    simp only [List.forall_mem_append]
    refine ⟨⟨⟨⟨?_, ?_⟩, ?_⟩, fun m hm => ?_⟩, ?_⟩
    · simp
    · exact forall_mem_optional (P := fun v => v.height ≤ max b 5) (by simp) "base" t.base
    · simpa using hproperties
    · exact Nat.le_trans (forall_mem_directives t.directives m hm) (by omega)
    · exact forall_mem_unlessEmpty (P := fun v => v.height ≤ max b 5) hmethods "methods"

/-! ## 4. Schemas -/

/-- **The lists of a schema are written within the budget they were decoded with**, if that is no
less than eight. -/
theorem Schema.keeps_lists : Keeps 8 decodeLists fun s =>
    .obj [("types", list TypeDecl.toJson s.1), ("resolvers", list Resolver.toJson s.2)] := by
  refine keeps_record "SchemaSnapshot" .skip
    (P := fun b (s : List TypeDecl × List Resolver) =>
      (list TypeDecl.toJson s.1).height ≤ max b 7 ∧ (list Resolver.toJson s.2).height ≤ max b 7)
    (fun b => ?fields)
    (fun b => ⟨le_max_of_le_right (by decide), le_max_of_le_right (by decide)⟩)
    fun b s hs => ?written
  case fields =>
    exact .field (TypeDecl.keeps.list b) (fun _ _ _ h hs => ⟨h, hs.2⟩)
      (.field (Resolver.keeps.list.mono (by decide) b) (fun _ _ _ h hs => ⟨hs.1, h⟩) .nil)
  case written => simpa using hs

end TypeMapper
