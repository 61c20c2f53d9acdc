import Mathlib.Data.Finset.Card
import TypeMapper.Proofs.Construction.Finding
import TypeMapper.Proofs.Schema.Chain
import TypeMapper.Proofs.TypeRef
/-!
# Overloads of a method

A directive names a method, and the method is looked up along the chain of the source type and then
along that of the destination type. Each chain lists a declaration once. But the two chains may share
their bases, and what is declared there is listed twice.

* `MethodDeclaration`: a method by the type that declares it and its position there.
* `Schema.HasOverload`: the declarations along a chain that fit; `Schema.overloads` lists them.
* `Schema.nodup_overloads`: nothing is listed twice.
* `PropertyBuilder.matchingMethods_congr`: shapes decide which methods match.
* `PropertyBuilder.ambiguous_iff`: two declarations fit, or one that both chains share.
* `PropertyBuilder.ambiguous_of_base`: a single declaration is reported to be ambiguous.
-/

namespace TypeMapper

/-! ## 1. Declarations -/

/-- A method, by the type that declares it and its position among the methods of that type. -/
structure MethodDeclaration where
  owner : TypeDecl
  position : Nat
  deriving DecidableEq, Repr

/-- A method of a name takes the subject and returns the wanted shape. -/
def Method.fits (m : Method) (name : String) (subject returns : TypeRef) : Bool :=
  m.name == name && (PropertyBuilder.takes m subject && m.returns.sameShape returns)

/-- The declarations of a type that fit. -/
def TypeDecl.overloads (t : TypeDecl) (name : String) (subject returns : TypeRef) :
    List MethodDeclaration :=
  (t.methods.zipIdx.filter fun e => e.1.fits name subject returns).map fun e => ⟨t, e.2⟩

namespace TypeDecl

variable {t : TypeDecl} {d : MethodDeclaration} {name : String} {subject returns : TypeRef}

theorem mem_overloads : d ∈ t.overloads name subject returns ↔
    d.owner = t ∧ ∃ m, t.methods[d.position]? = some m ∧ m.fits name subject returns = true := by
  constructor
  · intro hd
    obtain ⟨⟨m, i⟩, he, rfl⟩ := List.mem_map.mp hd
    obtain ⟨hm, hfits⟩ := List.mem_filter.mp he
    exact ⟨rfl, m, List.mem_zipIdx_iff_getElem?.mp hm, hfits⟩
  · rintro ⟨rfl, m, hm, hfits⟩
    have hmem : (m, d.position) ∈ d.owner.methods.zipIdx := List.mem_zipIdx_iff_getElem?.mpr hm
    exact List.mem_map.mpr ⟨_, List.mem_filter.mpr ⟨hmem, hfits⟩, rfl⟩

/-- The declarations of a type differ by their positions. -/
theorem nodup_overloads (t : TypeDecl) (name : String) (subject returns : TypeRef) :
    (t.overloads name subject returns).Nodup := by
  have hpositions : (t.methods.zipIdx.map Prod.snd).Nodup := by
    rw [List.zipIdx_map_snd]
    exact List.nodup_range'
  refine List.Nodup.of_map MethodDeclaration.position ?_
  rw [overloads, List.map_map]
  exact hpositions.sublist (List.filter_sublist.map Prod.snd)

/-- There are as many declarations that fit as there are such methods. -/
theorem length_overloads (t : TypeDecl) (name : String) (subject returns : TypeRef) :
    (t.overloads name subject returns).length =
      ((t.methodsNamed name).filter fun m =>
        PropertyBuilder.takes m subject && m.returns.sameShape returns).length := by
  have hfilter : (t.methods.zipIdx.filter fun e => e.1.fits name subject returns).map Prod.fst =
      t.methods.filter fun m => m.fits name subject returns := by
    rw [show (fun e : Method × Nat => e.1.fits name subject returns) =
      (fun m => m.fits name subject returns) ∘ Prod.fst from rfl, ← List.filter_map,
      List.zipIdx_map_fst]
  calc (t.overloads name subject returns).length
      = ((t.methods.zipIdx.filter fun e => e.1.fits name subject returns).map Prod.fst).length := by
        rw [overloads, List.length_map, List.length_map]
    _ = _ := by
        rw [hfilter, methodsNamed, List.filter_filter]
        refine congrArg List.length (List.filter_congr fun m _ => ?_)
        rw [Method.fits, Bool.and_comm]

end TypeDecl

/-! ## 2. Chains -/

namespace Schema

variable {s : Schema} {path name : String} {subject returns : TypeRef} {d : MethodDeclaration}

/-- A declaration along the chain of a type fits. -/
structure HasOverload (s : Schema) (path name : String) (subject returns : TypeRef)
    (d : MethodDeclaration) : Prop where
  inherited : d.owner ∈ s.chain path
  fits : ∃ m, d.owner.methods[d.position]? = some m ∧ m.fits name subject returns = true

/-- The declarations along the chain of a type that fit. -/
def overloads (s : Schema) (path name : String) (subject returns : TypeRef) :
    List MethodDeclaration :=
  (s.chain path).flatMap fun t => t.overloads name subject returns

theorem mem_overloads :
    d ∈ s.overloads path name subject returns ↔ s.HasOverload path name subject returns d := by
  refine List.mem_flatMap.trans ⟨?_, fun hd => ?_⟩
  · rintro ⟨t, ht, hd⟩
    obtain ⟨rfl, hfits⟩ := TypeDecl.mem_overloads.mp hd
    exact ⟨ht, hfits⟩
  · exact ⟨d.owner, hd.inherited, TypeDecl.mem_overloads.mpr ⟨rfl, hd.fits⟩⟩

/-- **A chain lists a declaration once.** -/
theorem nodup_overloads (s : Schema) (path name : String) (subject returns : TypeRef) :
    (s.overloads path name subject returns).Nodup := by
  refine List.nodup_flatMap.mpr ⟨fun t _ => t.nodup_overloads name subject returns, ?_⟩
  refine (s.nodup_chain path).imp fun {t u} hne d hd he => hne ?_
  obtain ⟨rfl, -⟩ := TypeDecl.mem_overloads.mp hd
  exact (TypeDecl.mem_overloads.mp he).1

/-- The lookup finds as many methods along a chain as there are declarations. -/
theorem length_overloads (s : Schema) (path name : String) (subject returns : TypeRef) :
    (s.overloads path name subject returns).length =
      ((s.methodsNamed path name).filter fun c =>
        PropertyBuilder.takes c.2 subject && c.2.returns.sameShape returns).length := by
  rw [overloads, methodsNamed, List.filter_flatMap, List.length_flatMap, List.length_flatMap]
  refine congrArg List.sum (List.map_congr_left fun t _ => ?_)
  rw [t.length_overloads, List.filter_map, List.length_map]
  rfl

end Schema

/-! ## 3. Two lists -/

/-- Two lists without repetitions have more than one entry together if there are two different ones
or both have one in common. -/
theorem one_lt_length_append_iff {α : Type} [DecidableEq α] {xs ys : List α} (hxs : xs.Nodup)
    (hys : ys.Nodup) : 1 < (xs ++ ys).length ↔
      (∃ x ∈ xs ++ ys, ∃ y ∈ xs ++ ys, x ≠ y) ∨ ∃ x ∈ xs, x ∈ ys := by
  constructor
  · intro hlength
    by_cases hcommon : ∃ x ∈ xs, x ∈ ys
    · exact .inr hcommon
    · have hnodup : (xs ++ ys).Nodup := hxs.append hys fun x hx hy => hcommon ⟨x, hx, hy⟩
      rw [← List.toFinset_card_of_nodup hnodup, Finset.one_lt_card] at hlength
      obtain ⟨x, hx, y, hy, hne⟩ := hlength
      exact .inl ⟨x, List.mem_toFinset.mp hx, y, List.mem_toFinset.mp hy, hne⟩
  · rintro (⟨x, hx, y, hy, hne⟩ | ⟨x, hx, hy⟩)
    · have hcard : 1 < (xs ++ ys).toFinset.card := Finset.one_lt_card.mpr
        ⟨x, List.mem_toFinset.mpr hx, y, List.mem_toFinset.mpr hy, hne⟩
      exact hcard.trans_le (xs ++ ys).toFinset_card_le
    · rw [List.length_append]
      exact Nat.add_le_add (List.length_pos_of_mem hx) (List.length_pos_of_mem hy)

/-! ## 4. Lookups -/

namespace PropertyBuilder

variable {b : PropertyBuilder} {h : Helpers} {name : String} {subject returns : TypeRef}

/-- **Shapes decide which methods match**: which of the values may be absent does not matter. -/
theorem matchingMethods_congr {subject' returns' : TypeRef}
    (hsubject : subject.sameShape subject' = true) (hreturns : returns.sameShape returns' = true)
    (cs : List (TypeDecl × Method)) :
    matchingMethods cs subject returns = matchingMethods cs subject' returns' := by
  have htakes (m : Method) : takes m subject = takes m subject' := by
    unfold takes
    split
    · rename_i p _
      exact TypeRef.sameShape_congr hsubject p.ty
    · rfl
  have hreturned (m : Method) : m.returns.sameShape returns = m.returns.sameShape returns' :=
    TypeRef.sameShape_congr hreturns m.returns
  simp only [matchingMethods, htakes, hreturned]

/-- Of several methods that take the subject, those are left that also return the wanted shape. Less
than two would be less than two before. -/
theorem one_lt_length_matchingMethods_iff (cs : List (TypeDecl × Method)) :
    1 < (matchingMethods cs subject returns).length ↔
      1 < (cs.filter fun c => takes c.2 subject && c.2.returns.sameShape returns).length := by
  have hboth : ((cs.filter fun c => takes c.2 subject).filter fun c =>
      c.2.returns.sameShape returns) =
        cs.filter fun c => takes c.2 subject && c.2.returns.sameShape returns := by
    rw [List.filter_filter]
    exact List.filter_congr fun c _ => Bool.and_comm _ _
  rw [← hboth]
  unfold matchingMethods
  dsimp only
  split
  · exact Iff.rfl
  · rename_i hfew
    exact iff_of_false hfew fun hmany => hfew (hmany.trans_le (List.length_filter_le _ _))

/-- An overload is reported to be ambiguous where more than one method is left. -/
theorem reports_findMethod_iff :
    (∃ r ∈ (b.findMethod h name subject returns).1.reports, r.code = .ambiguousMethodOverload) ↔
      1 < (matchingMethods (b.methodCandidates name) subject returns).length := by
  have hnotFound (message : String) :
      ¬ ∃ r ∈ (b.fail .methodNotFound message : Attempt Strategy).reports,
        r.code = .ambiguousMethodOverload := by
    rintro ⟨r, hr, hcode⟩
    rw [List.mem_singleton.mp hr] at hcode
    cases hcode
  unfold findMethod
  dsimp only
  split
  · rename_i hempty
    rw [List.isEmpty_iff.mp hempty]
    exact iff_of_false (hnotFound _) (Nat.not_lt_zero 1)
  · split
    · rename_i hnone
      rw [hnone]
      exact iff_of_false (hnotFound _) (by decide)
    · rename_i owner m hone
      rw [hone]
      refine iff_of_false ?_ (Nat.lt_irrefl 1)
      rintro ⟨r, hr, -⟩
      exact absurd hr List.not_mem_nil
    · rename_i hne hnotOne
      refine iff_of_true ⟨_, List.mem_singleton_self _, rfl⟩ ?_
      match matchingMethods (b.methodCandidates name) subject returns, hne, hnotOne with
      | [], hne, _ => exact absurd rfl hne
      | [c], _, hnotOne => exact absurd rfl (hnotOne c.1 c.2)
      | _ :: _ :: rest, _, _ => exact Nat.succ_lt_succ (Nat.succ_pos rest.length)

/-- A declaration along one of the two chains fits. -/
def Reaches (b : PropertyBuilder) (name : String) (subject returns : TypeRef)
    (d : MethodDeclaration) : Prop :=
  b.schema.HasOverload b.key.source name subject returns d ∨
    b.schema.HasOverload b.key.destination name subject returns d

/-- The declarations that the lookup adds for the destination type. -/
def destinationOverloads (b : PropertyBuilder) (name : String) (subject returns : TypeRef) :
    List MethodDeclaration :=
  if b.key.destination = b.key.source then []
  else b.schema.overloads b.key.destination name subject returns

variable {d : MethodDeclaration}

theorem mem_destinationOverloads : d ∈ b.destinationOverloads name subject returns ↔
    b.key.source ≠ b.key.destination ∧
      b.schema.HasOverload b.key.destination name subject returns d := by
  unfold destinationOverloads
  split
  · rename_i hsame
    exact iff_of_false List.not_mem_nil fun hd => hd.1 hsame.symm
  · rename_i hdiffer
    rw [Schema.mem_overloads]
    exact ⟨fun hd => ⟨Ne.symm hdiffer, hd⟩, And.right⟩

theorem mem_append_destinationOverloads :
    d ∈ b.schema.overloads b.key.source name subject returns ++
        b.destinationOverloads name subject returns ↔ b.Reaches name subject returns d := by
  rw [List.mem_append, Schema.mem_overloads, mem_destinationOverloads, Reaches]
  by_cases hsame : b.key.source = b.key.destination
  · rw [hsame, or_self]
    exact or_iff_left fun hd => hd.1 rfl
  · rw [and_iff_right hsame]

theorem nodup_destinationOverloads (b : PropertyBuilder) (name : String)
    (subject returns : TypeRef) : (b.destinationOverloads name subject returns).Nodup := by
  unfold destinationOverloads
  split
  · exact List.nodup_nil
  · exact b.schema.nodup_overloads _ _ _ _

/-- The lookup gets to as many methods that fit as there are declarations on both chains. -/
theorem length_candidates (b : PropertyBuilder) (name : String) (subject returns : TypeRef) :
    ((b.methodCandidates name).filter fun c =>
        takes c.2 subject && c.2.returns.sameShape returns).length =
      (b.schema.overloads b.key.source name subject returns ++
        b.destinationOverloads name subject returns).length := by
  unfold methodCandidates destinationOverloads
  rw [List.filter_append, List.length_append, List.length_append, Schema.length_overloads]
  split
  · rfl
  · rw [Schema.length_overloads]

/-- **An overload is reported to be ambiguous exactly if two different declarations fit, or one that
the chains of two different types share**, whatever the schema, the method and the types are. -/
theorem ambiguous_iff (b : PropertyBuilder) (h : Helpers) (name : String)
    (subject returns : TypeRef) :
    (∃ r ∈ (b.findMethod h name subject returns).1.reports, r.code = .ambiguousMethodOverload) ↔
      (∃ d e, d ≠ e ∧ b.Reaches name subject returns d ∧ b.Reaches name subject returns e) ∨
      (b.key.source ≠ b.key.destination ∧ ∃ d,
        b.schema.HasOverload b.key.source name subject returns d ∧
          b.schema.HasOverload b.key.destination name subject returns d) := by
  rw [reports_findMethod_iff, one_lt_length_matchingMethods_iff, length_candidates,
    one_lt_length_append_iff (b.schema.nodup_overloads _ _ _ _)
      (b.nodup_destinationOverloads name subject returns)]
  refine or_congr ⟨?_, ?_⟩ ⟨?_, ?_⟩
  · rintro ⟨d, hd, e, he, hne⟩
    exact ⟨d, e, hne, mem_append_destinationOverloads.mp hd, mem_append_destinationOverloads.mp he⟩
  · rintro ⟨d, e, hne, hd, he⟩
    exact ⟨d, mem_append_destinationOverloads.mpr hd, e, mem_append_destinationOverloads.mpr he, hne⟩
  · rintro ⟨d, hsource, hboth⟩
    obtain ⟨hdiffer, hdestination⟩ := mem_destinationOverloads.mp hboth
    exact ⟨hdiffer, d, Schema.mem_overloads.mp hsource, hdestination⟩
  · rintro ⟨hdiffer, d, hsource, hdestination⟩
    exact ⟨d, Schema.mem_overloads.mpr hsource, mem_destinationOverloads.mpr ⟨hdiffer, hdestination⟩⟩

/-- A text. -/
def personText : TypeRef := .scalar "String" false false

/-- What all kinds of persons have in common: how a text of theirs is cleaned. -/
def personBase : TypeDecl where
  path := "app::Base"
  base := none
  byValue := false
  constructible := true
  properties := []
  directives := []
  methods := [⟨"clean", [⟨"value", personText, false⟩], personText, false⟩]

/-- Two kinds of persons, and the name of the one that is mapped to the other. -/
def personBuilder : PropertyBuilder where
  schema := Schema.ofLists
    [personBase, { personBase with path := "app::Person", base := some "app::Base", methods := [] },
      { personBase with path := "view::Person", base := some "app::Base", methods := [] }] []
  config := Config.standard
  declared := [⟨"app::Person", "view::Person"⟩]
  key := ⟨"app::Person", "view::Person"⟩
  own := 0
  place := Location.ofProperty "view::Person" "name"
  directives := PropertyDirectives.none

/-- **A single declaration is reported to be ambiguous**: that of the base, where both chains end. So
there are not always two of them. -/
theorem ambiguous_of_base :
    (∃ r ∈ (personBuilder.findMethod Helpers.none "clean" personText personText).1.reports,
        r.code = .ambiguousMethodOverload) ∧
      (∀ d, personBuilder.Reaches "clean" personText personText d ↔ d = ⟨personBase, 0⟩) ∧
      ¬ ∃ d e, d ≠ e ∧ personBuilder.Reaches "clean" personText personText d ∧
        personBuilder.Reaches "clean" personText personText e := by
  have htwice : personBuilder.schema.overloads "app::Person" "clean" personText personText ++
      personBuilder.destinationOverloads "clean" personText personText =
        [⟨personBase, 0⟩, ⟨personBase, 0⟩] := by
    decide +kernel
  have hone : ∀ d, personBuilder.Reaches "clean" personText personText d ↔ d = ⟨personBase, 0⟩ :=
    fun d => by
      have hmem : d ∈ [⟨personBase, 0⟩, ⟨personBase, 0⟩] ↔
          personBuilder.Reaches "clean" personText personText d :=
        htwice ▸ mem_append_destinationOverloads
      rw [← hmem, List.mem_cons, List.mem_singleton, or_self]
  refine ⟨by decide +kernel, hone, ?_⟩
  rintro ⟨d, e, hne, hd, he⟩
  exact hne (((hone d).mp hd).trans ((hone e).mp he).symm)

end PropertyBuilder

end TypeMapper
