import TypeMapper.Proofs.Catalog
import TypeMapper.Proofs.Schema.Nesting
/-!
# Snapshots

A snapshot is the text of a schema. Written by the program it is read back to the schema, if it does
not nest more deeply than a reader goes. Written by others it may list declarations in any order,
list several under one path and leave out what has a usual value; once read and written again it is
a snapshot of the first kind.

* `Schema.ofText_text`: a snapshot is read back.
* `Schema.height_toJson_le`: what was read can be written and read again.
-/

namespace TypeMapper

open Json

/-! ## 1. Snapshots -/

namespace Schema

/-- A written schema is decoded to itself. -/
theorem undoes : Undoes decode toJson := fun s b hb => by
  have hlists := undoes_lists (s.types.toList, s.resolvers.toList) b hb
  show (decodeLists b (.ofJson s.toJson) >>= fun r => .ok (ofLists r.1 r.2)) = _
  rw [toJson, hlists]
  show Except.ok (ofLists s.types.toList s.resolvers.toList) = _
  rw [ofLists, Catalog.ofList_toList, Catalog.ofList_toList]

/-- A written schema is read back. -/
theorem ofText_text {s : Schema} (h : s.toJson.height ≤ nestingLimit) :
    ofText s.toJson.text = .ok s := by
  rw [ofText, decodeText_eq_ok_iff, Document.read_text s.exact_toJson]
  exact ⟨undoes s nestingLimit h, rfl⟩

/-- A schema is decoded by its two lists. -/
theorem exists_of_decode {b : Nat} {v : Reading} {s : Schema} (h : decode b v = .ok s) :
    ∃ types resolvers, decodeLists b v = .ok (types, resolvers) ∧ s = ofLists types resolvers := by
  cases hlists : decodeLists b v with
  | error e => simp [decode, hlists, bind, Except.bind] at h
  | ok r =>
      simp only [decode, hlists, bind, Except.bind, pure, Except.pure, Except.ok.injEq] at h
      exact ⟨r.1, r.2, rfl, h.symm⟩

/-- What replaces an entry was listed too, so a schema nests no more deeply than its lists. -/
theorem keeps : Keeps 8 decode toJson := by
  intro b v s hs
  obtain ⟨types, resolvers, hlists, rfl⟩ := exists_of_decode hs
  refine Nat.le_trans ?_ (keeps_lists b v _ hlists)
  have htypes : (list TypeDecl.toJson (ofLists types resolvers).types.toList).height ≤
      (list TypeDecl.toJson types).height :=
    height_list_mono fun t ht => Catalog.mem_of_mem_ofList ht
  have hresolvers : (list Resolver.toJson (ofLists types resolvers).resolvers.toList).height ≤
      (list Resolver.toJson resolvers).height :=
    height_list_mono fun r hr => Catalog.mem_of_mem_ofList hr
  simp only [toJson, height, heightMembers]
  omega

/-- What was read can be written and read again. -/
theorem height_toJson_le {text : String} {s : Schema} (h : ofText text = .ok s) :
    s.toJson.height ≤ nestingLimit :=
  keeps nestingLimit _ s (decodeText_eq_ok_iff.mp h).1

/-- **A snapshot is read back, and one more reading changes nothing.** What is written of a schema
within the limit of nesting is read as that schema. What is read of any text at all can be written
and read again; it has the entries of the text, of several under a path the last one, in the order
of their paths. -/
theorem ofText_snapshot :
    (∀ s : Schema, s.toJson.height ≤ nestingLimit → ofText s.toJson.text = .ok s) ∧
    ∀ (text : String) (s : Schema), ofText text = .ok s →
      ofText s.toJson.text = .ok s ∧
      s.types.toList.Pairwise (fun t u => t.path < u.path) ∧
      s.resolvers.toList.Pairwise (fun q r => q.path < r.path) ∧
      ∃ types resolvers, decodeText decodeLists text = .ok (types, resolvers) ∧
        (∀ path, s.type? path = types.reverse.find? fun t => t.path == path) ∧
        ∀ path, s.resolver? path = resolvers.reverse.find? fun r => r.path == path := by
  refine ⟨fun s => ofText_text, fun text s hs => ?_⟩
  obtain ⟨hdecode, htrailing⟩ := decodeText_eq_ok_iff.mp hs
  obtain ⟨types, resolvers, hlists, hof⟩ := exists_of_decode hdecode
  refine ⟨ofText_text (height_toJson_le hs), s.types.sorted, s.resolvers.sorted, types, resolvers,
    decodeText_eq_ok_iff.mpr ⟨hlists, htrailing⟩, fun path => ?_, fun path => ?_⟩
  · rw [hof]
    exact Catalog.find?_ofList types path
  · rw [hof]
    exact Catalog.find?_ofList resolvers path

/-- Two types under one path and one between them, with the least that has to be given. -/
def repeated : Json :=
  .obj [("types", .arr
    [.obj [("path", .str "b"), ("base", .str "a")],
     .obj [("path", .str "a")],
     .obj [("path", .str "b"), ("properties", .arr
       [.obj [("name", .str "x"),
         ("ty", .obj [("kind", .str "collection"),
           ("element", .obj [("kind", .str "object"), ("path", .str "a")])]),
         ("directives", .arr [.obj [("index", .int 3), ("directive", .str "ignore")]])]])]])]

/-- The schema of that text. -/
def repeatedSchema : Schema :=
  ofLists
    [⟨"a", none, false, true, [], [], []⟩,
     ⟨"b", none, false, true,
       [⟨"x", .collection .sequence (.object "a" false) false, false, ⟨true, true⟩,
         [⟨.ignore, some 3⟩]⟩], [], []⟩]
    []

theorem ofText_snapshot_repeated :
    (repeatedSchema.toJson.height ≤ nestingLimit ∧
      ofText repeatedSchema.toJson.text = .ok repeatedSchema) ∧
    ofText repeated.text = .ok repeatedSchema ∧
    ∃ types resolvers, decodeText decodeLists repeated.text = .ok (types, resolvers) ∧
      ∀ path, repeatedSchema.type? path = types.reverse.find? fun t => t.path == path := by
  have hheight : repeatedSchema.toJson.height ≤ nestingLimit := by decide +kernel
  have hindex : Exact (.int 3) := ⟨by decide, by decide⟩
  have hexact : Exact repeated := by simp [repeated, exact_obj_iff, exact_arr_iff, hindex]
  have hread : ofText repeated.text = .ok repeatedSchema := by
    rw [ofText, decodeText_eq_ok_iff, Document.read_text hexact]
    exact ⟨by decide +kernel, rfl⟩
  obtain ⟨-, -, -, types, resolvers, hlists, htypes, -⟩ := ofText_snapshot.2 _ _ hread
  exact ⟨⟨hheight, ofText_snapshot.1 repeatedSchema hheight⟩, hread, types, resolvers, hlists,
    htypes⟩

end Schema

end TypeMapper
