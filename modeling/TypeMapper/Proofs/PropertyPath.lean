import TypeMapper.Proofs.Matching
import TypeMapper.Proofs.Schema.Cycles
/-!
# Where dotted paths lead

A path is walked name by name, and at each type the first property of the name that can be read is
taken. A name may be declared twice, and then the walk does not come back to try the second
declaration: it gets to its end exactly if the first ones lead there.

* `Route`: properties in a row, each found under its name on the type of the one before.
* `Schema.Offers`, `Schema.OffersFirst`: a property of the name that can be read, and the first one.
* `PropertyPath.intercalate_segments`, `not_mem_of_mem_segments`: the names of a path.
* `Schema.walk_eq_ok_iff`: the walk gets to its end along the route of the first properties.
* `Schema.walk_fails_of_repeated`: it fails where only a second declaration leads on.
-/

namespace TypeMapper

/-! ## 1. Names of a path -/

namespace PropertyPath

/-- There is no dot between dots. -/
theorem not_mem_of_mem_segmentChars {cs name : List Char} (h : name ∈ segmentChars cs) :
    '.' ∉ name := by
  induction cs generalizing name with
  | nil => exact List.mem_singleton.mp h ▸ List.not_mem_nil
  | cons c rest ih =>
      unfold segmentChars at h
      split at h
      · rcases List.mem_cons.mp h with rfl | h
        · exact List.not_mem_nil
        · exact ih h
      · rename_i hc
        cases hs : segmentChars rest with
        | nil => exact absurd hs (segmentChars_ne_nil rest)
        | cons first others =>
            rw [hs] at h ih
            rcases List.mem_cons.mp h with rfl | h
            · rw [List.mem_cons, not_or]
              exact ⟨fun he => hc he.symm, ih List.mem_cons_self⟩
            · exact ih (List.mem_cons_of_mem first h)

theorem not_mem_of_mem_segments {path name : String} (h : name ∈ segments path) :
    '.' ∉ name.toList := by
  obtain ⟨cs, hcs, rfl⟩ := List.mem_map.mp h
  rw [String.toList_ofList]
  exact not_mem_of_mem_segmentChars hcs

/-- The names of a path, joined by dots, are the path. -/
theorem intercalate_segments (path : String) : ".".intercalate (segments path) = path := by
  refine String.toList_inj.mp ?_
  rw [String.toList_intercalate, segments, List.map_map]
  have hchars : (String.toList ∘ String.ofList) = id := funext fun _ => String.toList_ofList
  rw [hchars, List.map_id]
  exact intercalate_segmentChars path.toList

end PropertyPath

/-! ## 2. Routes -/

/-- Properties in a row under their names: the first one is found on the type at a path, and each
next one on the object type of the property before. -/
inductive Route (Found : String → String → Property → Prop) :
    String → List String → List Property → Prop
  | last {path name : String} {p : Property} (found : Found path name p) :
      Route Found path [name] [p]
  | on {path name next : String} {names : List String} {p : Property} {ps : List Property}
      (found : Found path name p) (object : p.ty.objectPath? = some next)
      (rest : Route Found next names ps) : Route Found path (name :: names) (p :: ps)

namespace Schema

variable {s : Schema} {path root name : String} {p : Property} {ps : List Property}

/-- A type of the schema has a property of the name that can be read. -/
structure Offers (s : Schema) (path name : String) (p : Property) : Prop where
  declared : s.Declares path
  inherited : p ∈ s.flattened path
  named : p.name = name
  readable : p.access.readable = true

/-- The property is the first one of the name that can be read on a type of the schema. -/
def OffersFirst (s : Schema) (path name : String) (p : Property) : Prop :=
  s.Offers path name p ∧ ∃ before after, s.flattened path = before ++ p :: after ∧
    ∀ q ∈ before, ¬ s.Offers path name q

/-- What lookup by name finds is the first property of the name that can be read. -/
theorem readable?_eq_some_iff (h : s.Declares path) :
    s.readable? path name = some p ↔ s.OffersFirst path name p := by
  rw [readable?, List.find?_eq_some_iff_append]
  simp only [Bool.and_eq_true, beq_iff_eq, Bool.not_eq_true', Bool.and_eq_false_imp]
  constructor
  · rintro ⟨⟨hname, hread⟩, before, after, hsplit, hbefore⟩
    refine ⟨⟨h, hsplit ▸ List.mem_append_right _ List.mem_cons_self, hname, hread⟩,
      before, after, hsplit, fun q hq hoffers => ?_⟩
    exact Bool.false_ne_true ((hbefore q hq hoffers.named).symm.trans hoffers.readable)
  · rintro ⟨hoffers, before, after, hsplit, hbefore⟩
    refine ⟨⟨hoffers.named, hoffers.readable⟩, before, after, hsplit, fun q hq hname => ?_⟩
    refine Bool.eq_false_iff.mpr fun hread => hbefore q hq ⟨h, ?_, hname, hread⟩
    exact hsplit ▸ List.mem_append_left _ hq

theorem hop_eq_ok_iff : s.hop path name = .ok p ↔ s.OffersFirst path name p := by
  unfold hop
  split
  · rename_i hdeclared
    rw [← readable?_eq_some_iff (hasType_iff.mp hdeclared)]
    cases s.readable? path name with
    | none => exact iff_of_false nofun nofun
    | some q => rw [Except.ok.injEq, Option.some.injEq]
  · rename_i hunknown
    exact iff_of_false nofun fun h => hunknown (hasType_iff.mpr h.1.declared)

/-- Behind a property the walk goes on from its object type. -/
theorem walkFrom_cons (p : Property) (name : String) (rest : List String) :
    s.walkFrom p (name :: rest) = match p.ty.objectPath? with
      | none => .error (.notAnObject p.name)
      | some path => s.walkNames path (name :: rest) := rfl

/-- **Names in a row lead along the route of the first properties.** -/
theorem walkNames_eq_ok_iff {rest : List String} : s.walkNames root (name :: rest) = .ok ps ↔
    Route s.OffersFirst root (name :: rest) ps := by
  induction rest generalizing root name ps with
  | nil =>
      constructor
      · intro h
        obtain ⟨p, hp, h⟩ := exists_ok_of_bind h
        obtain rfl := Except.ok.inj h
        exact .last (hop_eq_ok_iff.mp hp)
      · rintro (⟨found⟩ | ⟨-, -, ⟨⟩⟩)
        rw [walkNames, hop_eq_ok_iff.mpr found]
        rfl
  | cons next rest ih =>
      constructor
      · intro h
        obtain ⟨p, hp, h⟩ := exists_ok_of_bind h
        obtain ⟨ps, hps, h⟩ := exists_ok_of_bind h
        obtain rfl := Except.ok.inj h
        rw [walkFrom_cons] at hps
        split at hps
        · cases hps
        · rename_i path hobject
          exact .on (hop_eq_ok_iff.mp hp) hobject (ih.mp hps)
      · rintro (- | ⟨found, hobject, hrest⟩)
        rw [walkNames, hop_eq_ok_iff.mpr found]
        show s.walkFrom _ _ >>= _ = _
        rw [walkFrom_cons, hobject]
        dsimp only
        rw [ih.mpr hrest]
        rfl

theorem Route.map_name {Found : String → String → Property → Prop}
    (hname : ∀ {path name p}, Found path name p → p.name = name) {names : List String}
    (h : Route Found path names ps) : ps.map Property.name = names := by
  induction h with
  | last found => exact congrArg (fun n => [n]) (hname found)
  | on found _ _ ih => exact congrArg₂ List.cons (hname found) ih

/-! ## 3. Walks -/

/-- **A walk gets to its end along the route of the first properties**, one for each name of the
path, and the names of the properties, joined by dots, are the path. -/
theorem walk_eq_ok_iff (s : Schema) (root path : String) :
    (∀ hops, s.walk root path = .ok hops ↔
      Route s.OffersFirst root (PropertyPath.segments path) hops) ∧
    (∀ hops, s.walk root path = .ok hops → ".".intercalate (hops.map Property.name) = path) ∧
    ".".intercalate (PropertyPath.segments path) = path ∧
    ∀ name ∈ PropertyPath.segments path, '.' ∉ name.toList := by
  have hwalk (hops : List Property) : s.walk root path = .ok hops ↔
      Route s.OffersFirst root (PropertyPath.segments path) hops := by
    unfold walk
    cases hs : PropertyPath.segments path with
    | nil =>
        exact absurd (List.map_eq_nil_iff.mp hs) (PropertyPath.segmentChars_ne_nil path.toList)
    | cons name rest => exact walkNames_eq_ok_iff
  refine ⟨hwalk, fun hops h => ?_, PropertyPath.intercalate_segments path,
    fun name => PropertyPath.not_mem_of_mem_segments⟩
  rw [Route.map_name (fun found => found.1.named) ((hwalk hops).mp h)]
  exact PropertyPath.intercalate_segments path

/-- A person with two addresses, a text and an object, in one order or the other. -/
def person (textFirst : Bool) : TypeDecl where
  path := "model::Person"
  base := none
  byValue := false
  constructible := true
  properties :=
    let text : Property := ⟨"address", .scalar "String" false false, false, ⟨true, true⟩, []⟩
    let object : Property := ⟨"address", .object "model::Address" false, false, ⟨true, true⟩, []⟩
    if textFirst then [text, object] else [object, text]
  directives := []
  methods := []

/-- An address with a city. -/
def address : TypeDecl where
  path := "model::Address"
  base := none
  byValue := false
  constructible := true
  properties := [⟨"city", .scalar "String" false false, false, ⟨true, true⟩, []⟩]
  directives := []
  methods := []

theorem walk_eq_ok_iff_of_object_first :
    let s := ofLists [person false, address] []
    ∃ hops, s.walk "model::Person" "address.city" = .ok hops ∧
      ".".intercalate (hops.map Property.name) = "address.city" := by
  intro s
  have hsegments : PropertyPath.segments "address.city" = ["address", "city"] := by decide
  obtain ⟨hwalk, hjoined, -⟩ := walk_eq_ok_iff s "model::Person" "address.city"
  have hroute : Route s.OffersFirst "model::Person" (PropertyPath.segments "address.city")
      [(person false).properties[0], address.properties[0]] := by
    rw [hsegments]
    refine .on
      ⟨⟨⟨person false, ?_, rfl⟩, ?_, rfl, rfl⟩, [], (person false).properties.tail, ?_, nofun⟩ rfl
      (.last ⟨⟨⟨address, ?_, rfl⟩, ?_, rfl, rfl⟩, [], [], ?_, nofun⟩)
    all_goals decide
  have hok := (hwalk _).mpr hroute
  exact ⟨_, hok, hjoined _ hok⟩

/-- **A second declaration is not tried**: there are properties along the whole path, and the walk
fails. -/
theorem walk_fails_of_repeated :
    let s := ofLists [person true, address] []
    (∃ hops, Route s.Offers "model::Person" (PropertyPath.segments "address.city") hops) ∧
      s.walk "model::Person" "address.city" = .error (.notAnObject "address") := by
  refine ⟨⟨[(person true).properties[1], address.properties[0]], ?_⟩, by decide⟩
  have hsegments : PropertyPath.segments "address.city" = ["address", "city"] := by decide
  rw [hsegments]
  refine .on ⟨⟨person true, ?_, rfl⟩, ?_, rfl, rfl⟩ rfl
    (.last ⟨⟨address, ?_, rfl⟩, ?_, rfl, rfl⟩)
  all_goals decide

end Schema

end TypeMapper
