import TypeMapper.Proofs.Json.Text
import TypeMapper.Proofs.Json.Undoing
import TypeMapper.Schema.Json
/-!
# What is written of a schema is decoded to the same

Each reader of a schema's parts undoes the way in which that part is written. The parts of a type
are written inside it, so this goes by induction on the type, with the budget of nesting as a bound
for the depth to which the reader follows.

* `TypeRef.undoes`, `DirectiveEntry.undoes`: the two objects with a tag.
* `Property.undoes`, `Method.undoes`, `Resolver.undoes`, `TypeDecl.undoes`: the declarations.
* `Schema.undoes_lists`: the two lists of a schema.
* `Schema.exact_toJson`: the numbers in them can be read.
-/

namespace TypeMapper

open Json

/-! ## 1. Type references -/

namespace TypeRef

theorem toJsons_eq_map (ts : List TypeRef) : toJsons ts = ts.map toJson := by
  induction ts with
  | nil => rfl
  | cons t ts ih => rw [toJsons, ih, List.map_cons]

theorem undoes_collectionKind : Undoes decodeCollectionKind fun k => .str k.name := by
  intro k _ _
  cases k <;> rfl

theorem undoes_mapKind : Undoes decodeMapKind fun k => .str k.name := by
  intro k _ _
  cases k <;> rfl

/-- A type is decoded in three steps: absence, the kind, and what is of that kind. -/
theorem decodeWithin_of_steps {fuel b i : Nat} {v : Reading} {n : Option Bool}
    {members others : Members} {t : TypeRef}
    (hflat : flattened "TypeRef" "nullable" Decoder.flag b v = .ok (n, members))
    (htag : tagged "kind" kindNames members = .ok (i, others))
    (hkind : ofKind (decodeWithin fuel) (b - 1) (n.getD false) others i = .ok t) :
    decodeWithin (fuel + 1) b v = .ok t := by
  simp only [decodeWithin, hflat, htag, hkind, bind, Except.bind]

/-- A written type is decoded by its kind, from the members of that kind. -/
theorem decodeWithin_ofJson (ms : List (String × Json)) {fuel b i : Nat} {n : Bool}
    {kind : String} {t : TypeRef} (hi : indexOf? kindNames kind = some i)
    (hms : ∀ m ∈ ms, m.1 ≠ "nullable" ∧ m.1 ≠ "kind")
    (hb : (Json.obj (("kind", .str kind) :: ms ++ [("nullable", .bool n)])).height ≤ b)
    (h : ∀ c, b = c + 1 → (∀ m ∈ ms, m.2.height ≤ c) →
      ofKind (decodeWithin fuel) c n (named ms) i = .ok t) :
    decodeWithin (fuel + 1) b
      (.ofJson (.obj (("kind", .str kind) :: ms ++ [("nullable", .bool n)]))) = .ok t := by
  have hown : ∀ m ∈ ("kind", Json.str kind) :: ms, m.1 ≠ "nullable" :=
    List.forall_mem_cons.mpr ⟨by simp, fun m hm => (hms m hm).1⟩
  have hflat := flattened_ofJson "TypeRef" hown hb fun c =>
    takeOwn_self (undoes_flag n c (Nat.zero_le c))
  obtain ⟨c, rfl, hheight⟩ := height_obj_le_iff.mp hb
  exact decodeWithin_of_steps hflat (tagged_named hi fun m hm => (hms m hm).2)
    (h c rfl fun m hm => hheight m (List.mem_append_left _ (List.mem_cons_of_mem _ hm)))

mutual

/-- A written type is decoded by a reader that goes as deep as the budget. -/
theorem decodeWithin_toJson : ∀ (t : TypeRef) (fuel b : Nat), t.toJson.height ≤ b → b < fuel →
    decodeWithin fuel b (.ofJson t.toJson) = .ok t
  | .scalar m v n, fuel + 1, b, hb, _ => by
      refine decodeWithin_ofJson [("name", .str m), ("value_type", .bool v)] rfl (by simp)
        hb fun c _ hms => ?_
      have hfills : Fills c scalarFields [("name", .str m), ("value_type", .bool v)] ("", false)
          (m, v) := .member (undoes_text m c) (.member (undoes_flag v c) .done)
      rw [ofKind, variant_of_fills (by decide) hfills hms]
      rfl
  | .object p n, fuel + 1, b, hb, _ => by
      refine decodeWithin_ofJson [("path", .str p)] rfl (by simp) hb fun c _ hms => ?_
      have hfills : Fills c objectFields [("path", .str p)] "" p :=
        .member (undoes_text p c) .done
      rw [ofKind, variant_of_fills (by decide) hfills hms]
      rfl
  | .collection k e n, fuel + 1, b, hb, hfuel => by
      refine decodeWithin_ofJson [("collection", .str k.name), ("element", e.toJson)] rfl
        (by simp) hb fun c hc hms => ?_
      have hfills : Fills c (collectionFields (decodeWithin fuel))
          [("collection", .str k.name), ("element", e.toJson)] (.sequence, default) (k, e) :=
        .member (undoes_collectionKind k c)
          (.member (fun he => decodeWithin_toJson e fuel c he (by omega)) .done)
      rw [ofKind, variant_of_fills (by simp [collectionFields, Member.must, Member.may]) hfills hms]
      rfl
  | .map k a v n, fuel + 1, b, hb, hfuel => by
      refine decodeWithin_ofJson
        [("map", .str k.name), ("key", a.toJson), ("value", v.toJson)] rfl
        (by simp) hb fun c hc hms => ?_
      have hfills : Fills c (mapFields (decodeWithin fuel))
          [("map", .str k.name), ("key", a.toJson), ("value", v.toJson)]
          (.hash, default, default) (k, a, v) :=
        .member (undoes_mapKind k c)
          (.member (fun ha => decodeWithin_toJson a fuel c ha (by omega))
            (.member (fun hv => decodeWithin_toJson v fuel c hv (by omega)) .done))
      rw [ofKind, variant_of_fills (by simp [mapFields, Member.must, Member.may]) hfills hms]
      rfl
  | .tuple es n, fuel + 1, b, hb, hfuel => by
      refine decodeWithin_ofJson [("elements", .arr (toJsons es))] rfl (by simp) hb
        fun c hc hms => ?_
      have hfills : Fills c (tupleFields (decodeWithin fuel)) [("elements", .arr (toJsons es))] []
          es := by
        rw [toJsons_eq_map]
        exact .member (fun hes => listOf_ofJson hes fun t ht c hc hheight =>
          decodeWithin_mem_toJson es t ht fuel c hheight (by omega)) .done
      rw [ofKind, variant_of_fills (by simp [tupleFields, Member.must]) hfills hms]
      · rfl
      all_goals omega

theorem decodeWithin_mem_toJson : ∀ (ts : List TypeRef), ∀ t ∈ ts, ∀ (fuel b : Nat),
    t.toJson.height ≤ b → b < fuel → decodeWithin fuel b (.ofJson t.toJson) = .ok t
  | [] => nofun
  | t :: ts => List.forall_mem_cons.mpr ⟨decodeWithin_toJson t, decodeWithin_mem_toJson ts⟩

end

/-- **The reader of types undoes how they are written.** -/
theorem undoes : Undoes decode toJson := fun t b hb =>
  decodeWithin_toJson t (b + 1) b hb (Nat.lt_succ_self b)

end TypeRef

/-! ## 2. Directives -/

namespace Directive

/-- The position of a directive among the names. -/
def position : Directive → Nat
  | .ignore => 0
  | .ignoreNullIncompatibility => 1
  | .ignoreTargetNames _ => 2
  | .mapCompleteCollection => 3
  | .mapFrom _ => 4
  | .mapPath .. => 5
  | .mapTo _ => 6
  | .maxRecursionDepth _ => 7
  | .renameTo _ => 8
  | .useMapper .. => 9
  | .useMethod _ => 10
  | .useResolver _ => 11

theorem indexOf?_name (d : Directive) : indexOf? names d.name = some d.position := by
  cases d <;> rfl

theorem fields_name (d : Directive) : ∀ m ∈ d.fields, m.1 ≠ "index" ∧ m.1 ≠ "directive" := by
  cases d <;> simp [fields]

section Variants

variable {α : Type} {d : Decoder α} {write : α → Json} (b : Nat)

theorem variant_single (name : String) (h : Undoes d write) (x blank : α)
    (hb : (write x).height ≤ b) :
    variant (single name d) b blank (named [(name, write x)]) = .ok x :=
  variant_of_fills (by simp [single, Member.must]) (.member (h x b) .done) (by simpa using hb)

theorem variant_pair (first second x y : String) (hne : first ≠ second) :
    variant (pair first second) b ("", "") (named [(first, .str x), (second, .str y)]) =
      .ok (x, y) :=
  variant_of_fills (by simpa [pair, Member.must] using hne)
    (.member (undoes_text x b) (.member (undoes_text y b) .done)) (by simp [height])

end Variants

/-- **A directive is decoded by its position**, from its fields. -/
theorem ofPosition_named {b : Nat} (d : Directive) (hb : ∀ m ∈ d.fields, m.2.height ≤ b) :
    ofPosition b (named d.fields) d.position = .ok d := by
  have hword (n : UInt32) : (Json.nat n.toNat).height ≤ b := Nat.zero_le b
  have htext (s : String) : (Json.str s).height ≤ b := Nat.zero_le b
  cases d with
  | ignore => rfl
  | ignoreNullIncompatibility => rfl
  | ignoreTargetNames ns =>
      exact congrArg (Except.map _)
        (variant_single b "names" undoes_text.list ns [] (hb _ List.mem_cons_self))
  | mapCompleteCollection => rfl
  | mapFrom s =>
      exact congrArg (Except.map _) (variant_single b "source" undoes_text s "" (htext s))
  | mapPath p t =>
      exact congrArg (Except.map fun q : String × String => Directive.mapPath q.1 q.2)
        (variant_pair b "path" "target" p t (by decide))
  | mapTo s =>
      exact congrArg (Except.map _) (variant_single b "destination" undoes_text s "" (htext s))
  | maxRecursionDepth n =>
      exact congrArg (Except.map _) (variant_single b "depth" undoes_word n 0 (hword n))
  | renameTo s =>
      exact congrArg (Except.map _) (variant_single b "name" undoes_text s "" (htext s))
  | useMapper s t =>
      exact congrArg (Except.map fun q : String × String => Directive.useMapper q.1 q.2)
        (variant_pair b "source" "destination" s t (by decide))
  | useMethod s =>
      exact congrArg (Except.map _) (variant_single b "name" undoes_text s "" (htext s))
  | useResolver s =>
      exact congrArg (Except.map _) (variant_single b "resolver" undoes_text s "" (htext s))

end Directive

/-- An entry is decoded in three steps: the index, the name, and the fields of that directive. -/
theorem DirectiveEntry.decode_of_steps {b i : Nat} {v : Reading} {index : Option (Option UInt32)}
    {members others : Members} {d : Directive}
    (hflat : flattened "DirectiveEntry" "index" (Decoder.optional Decoder.word) b v =
      .ok (index, members))
    (htag : tagged "directive" Directive.names members = .ok (i, others))
    (hd : Directive.ofPosition (b - 1) others i = .ok d) :
    decode b v = .ok ⟨d, index.getD none⟩ := by
  simp only [decode, hflat, htag, hd, bind, Except.bind, pure, Except.pure]

/-- **The reader of entries undoes how they are written**, with an index and without. -/
theorem DirectiveEntry.undoes : Undoes decode toJson := by
  intro e b hb
  have hown : ∀ m ∈ ("directive", Json.str e.directive.name) :: e.directive.fields,
      m.1 ≠ "index" :=
    List.forall_mem_cons.mpr ⟨by simp, fun m hm => (e.directive.fields_name m hm).1⟩
  have hlast (c : Nat) : takeOwn "index" (Decoder.optional Decoder.word) c
      (Reading.ofMembers (Json.optional "index" (fun i => Json.nat i.toNat) e.index)) none =
        .ok (e.index.map some, []) := by
    cases e.index with
    | none => rfl
    | some i => exact takeOwn_self (undoes_word.optional nofun (some i) c (Nat.zero_le c))
  have hflat := flattened_ofJson "DirectiveEntry" hown hb hlast
  obtain ⟨c, rfl, hheight⟩ := height_obj_le_iff.mp hb
  have hindex : (e.index.map some).getD none = e.index := by cases e.index <;> rfl
  have hdecode := decode_of_steps hflat
    (tagged_named e.directive.indexOf?_name fun m hm => (e.directive.fields_name m hm).2)
    (e.directive.ofPosition_named fun m hm =>
      hheight m (List.mem_append_left _ (List.mem_cons_of_mem _ hm)))
  rwa [hindex] at hdecode

/-! ## 3. Declarations -/

theorem Access.undoes : Undoes decode toJson :=
  undoes_record "Access" .skip (by decide) fun a b =>
    .member (undoes_flag a.readable b) (.member (undoes_flag a.settable b) .done)

theorem Property.undoes : Undoes decode toJson :=
  undoes_record "PropertyDescriptor" .skip (by decide) fun p b =>
    .member (undoes_text p.name b) (.member (TypeRef.undoes p.ty b)
      (.member (undoes_flag p.byValue b) (.member (Access.undoes p.access b)
        (.lastUnlessEmpty DirectiveEntry.undoes rfl))))

theorem Parameter.undoes : Undoes decode toJson :=
  undoes_record "ParameterDescriptor" .skip (by decide) fun p b =>
    .member (undoes_text p.name b) (.member (TypeRef.undoes p.ty b)
      (.member (undoes_flag p.hasDefault b) .done))

theorem Method.undoes : Undoes decode toJson :=
  undoes_record "MethodDescriptor" .skip (by decide) fun m b =>
    .member (undoes_text m.name b) (.member (Parameter.undoes.list m.parameters b)
      (.member (TypeRef.undoes m.returns b) (.member (undoes_flag m.isAsync b) .done)))

theorem Resolver.undoes : Undoes decode toJson :=
  undoes_record "ResolverDescriptor" .skip (by decide) fun r b =>
    .member (undoes_text r.path b) (.member (Parameter.undoes.list r.parameters b)
      (.member (TypeRef.undoes r.source b) (.member (TypeRef.undoes r.destination b)
        (.member (undoes_flag r.isAsync b) .done))))

theorem TypeDecl.undoes : Undoes decode toJson := by
  refine undoes_record "TypeDescriptor" .skip (by decide) fun t b => ?_
  simp only [List.append_assoc, List.cons_append, List.nil_append]
  exact .member (undoes_text t.path b) (.optional (undoes_text.optional nofun) rfl
    (.member (undoes_flag t.byValue b) (.member (undoes_flag t.constructible b)
      (.member (Property.undoes.list t.properties b)
        (.unlessEmpty DirectiveEntry.undoes rfl (.lastUnlessEmpty Method.undoes rfl))))))

theorem Schema.undoes_lists : Undoes decodeLists fun s =>
    .obj [("types", list TypeDecl.toJson s.1), ("resolvers", list Resolver.toJson s.2)] :=
  undoes_record "SchemaSnapshot" .skip (by decide) fun s b =>
    .member (TypeDecl.undoes.list s.1 b) (.member (Resolver.undoes.list s.2 b) .done)

/-! ## 4. Numbers -/

mutual

theorem TypeRef.exact_toJson : ∀ t : TypeRef, Exact t.toJson
  | .scalar .. => by simp [TypeRef.toJson, exact_obj_iff]
  | .object .. => by simp [TypeRef.toJson, exact_obj_iff]
  | .collection _ e _ => by simp [TypeRef.toJson, exact_obj_iff, TypeRef.exact_toJson e]
  | .map _ a v _ => by
      simp [TypeRef.toJson, exact_obj_iff, TypeRef.exact_toJson a, TypeRef.exact_toJson v]
  | .tuple es _ => by
      have hes : Exact (.arr (TypeRef.toJsons es)) := by
        rw [TypeRef.toJsons_eq_map]
        exact exact_arr_iff.mpr (List.forall_mem_map.mpr (TypeRef.exact_mem_toJson es))
      simp [TypeRef.toJson, exact_obj_iff, hes]

theorem TypeRef.exact_mem_toJson : ∀ ts : List TypeRef, ∀ t ∈ ts, Exact t.toJson
  | [] => nofun
  | t :: ts => List.forall_mem_cons.mpr ⟨TypeRef.exact_toJson t, TypeRef.exact_mem_toJson ts⟩

end

theorem Directive.exact_fields (d : Directive) : ∀ m ∈ d.fields, Exact m.2 := by
  cases d with
  | ignoreTargetNames names => exact List.forall_mem_singleton.mpr (exact_list exact_str names)
  | maxRecursionDepth n => exact List.forall_mem_singleton.mpr (exact_word n)
  | _ => simp [fields]

theorem DirectiveEntry.exact_toJson (e : DirectiveEntry) : Exact e.toJson :=
  exact_obj_iff.mpr (List.forall_mem_append.mpr
    ⟨List.forall_mem_cons.mpr ⟨exact_str _, e.directive.exact_fields⟩,
      forall_mem_optional exact_word "index" e.index⟩)

theorem Property.exact_toJson (p : Property) : Exact p.toJson := by
  have hdirectives := forall_mem_unlessEmpty
    (exact_list DirectiveEntry.exact_toJson p.directives) "directives"
  refine exact_obj_iff.mpr (List.forall_mem_append.mpr ⟨?_, hdirectives⟩)
  simp [Access.toJson, exact_obj_iff, TypeRef.exact_toJson]

theorem Parameter.exact_toJson (p : Parameter) : Exact p.toJson := by
  simp [toJson, exact_obj_iff, TypeRef.exact_toJson]

theorem Method.exact_toJson (m : Method) : Exact m.toJson := by
  simp [toJson, exact_obj_iff, TypeRef.exact_toJson, exact_list Parameter.exact_toJson]

theorem Resolver.exact_toJson (r : Resolver) : Exact r.toJson := by
  simp [toJson, exact_obj_iff, TypeRef.exact_toJson, exact_list Parameter.exact_toJson]

theorem TypeDecl.exact_toJson (t : TypeDecl) : Exact t.toJson := by
  refine exact_obj_iff.mpr ?_
  simp only [List.forall_mem_append]
  refine ⟨⟨⟨⟨?_, ?_⟩, ?_⟩, ?_⟩, ?_⟩
  · simp
  · exact forall_mem_optional exact_str "base" t.base
  · simp [exact_list Property.exact_toJson]
  · exact forall_mem_unlessEmpty (exact_list DirectiveEntry.exact_toJson _) "directives"
  · exact forall_mem_unlessEmpty (exact_list Method.exact_toJson _) "methods"

/-- **The numbers of a written schema are of 64 bits**: they are indices and depths. -/
theorem Schema.exact_toJson (s : Schema) : Exact s.toJson := by
  simp [toJson, exact_obj_iff, exact_list TypeDecl.exact_toJson, exact_list Resolver.exact_toJson]

end TypeMapper
