import TypeMapper.Proofs.Directive.Order
import TypeMapper.Proofs.Matching
import TypeMapper.Proofs.Outcome
import TypeMapper.Proofs.Schema.Chain
/-!
# Schemas that agree on some paths

What a schema says of a type is found by going from path to path: to its base, to the objects in its
properties, to what its directives name. If one schema never leaves a set of paths on such a way,
and another one has the same types at these paths, both say the same of them.

* `Schema.AgreesOn`: two schemas agree on paths that the first one does not leave.
* `Schema.AgreesOn.chain`, `isByValue`, `walk`: what is found by going from path to path.
* `Schema.AgreesOn.matchProperties`: the matching of two types, and `PropertyMatch.Within` of its
  pairs.
-/

namespace TypeMapper

/-! ## 1. Paths -/

/-- The paths of types that a directive names. -/
def Directive.operands : Directive → List String
  | .mapFrom source => [source]
  | .mapTo destination => [destination]
  | .useMapper source destination => [source, destination]
  | _ => []

/-- The objects in a type are at paths of a set. -/
def TypeRef.Within (K : String → Prop) (t : TypeRef) : Prop := ∀ p ∈ t.objectPaths, K p

/-- What a property mentions is in a set of paths. -/
structure Property.Within (K : String → Prop) (p : Property) : Prop where
  ty : p.ty.Within K
  operands : ∀ e ∈ p.directives, ∀ q ∈ e.directive.operands, K q

/-- Two schemas agree on a set of paths that the types of the first one do not leave. -/
structure Schema.AgreesOn (K : String → Prop) (s t : Schema) : Prop where
  types : ∀ p, K p → t.type? p = s.type? p
  resolvers : t.resolvers = s.resolvers
  size : s.types.toList.length ≤ t.types.toList.length
  bases : ∀ d ∈ s.types.toList, ∀ p ∈ d.base, K p
  properties : ∀ d ∈ s.types.toList, ∀ p ∈ d.properties, p.Within K

/-- A schema agrees with itself. -/
theorem Schema.AgreesOn.refl (s : Schema) : s.AgreesOn (fun _ => True) s :=
  ⟨fun _ _ => rfl, rfl, Nat.le_refl _, fun _ _ _ _ => trivial,
    fun _ _ _ _ => ⟨fun _ _ => trivial, fun _ _ _ _ => trivial⟩⟩

theorem TypeRef.Within.of_objectPath? {K : String → Prop} {t : TypeRef} {p : String}
    (h : t.Within K) (hp : t.objectPath? = some p) : K p := by
  cases t with
  | object q n =>
      obtain rfl := Option.some.inj hp
      exact h q List.mem_cons_self
  | _ => cases hp

theorem TypeRef.mem_objectPathsOf {ts : List TypeRef} {t : TypeRef} (ht : t ∈ ts) {p : String}
    (hp : p ∈ t.objectPaths) : p ∈ objectPathsOf ts := by
  induction ts with
  | nil => exact absurd ht List.not_mem_nil
  | cons u us ih =>
      rw [objectPathsOf, List.mem_append]
      rcases List.mem_cons.mp ht with rfl | ht
      · exact .inl hp
      · exact .inr (ih ht)

namespace Schema

variable {K : String → Prop} {s t : Schema} {path root : String} {d : TypeDecl} {p : Property}

/-! ## 2. Chains -/

namespace AgreesOn

variable (h : s.AgreesOn K t)

include h

theorem hasType (hp : K path) : t.hasType path = s.hasType path :=
  congrArg Option.isSome (h.types path hp)

theorem base? (hd : d ∈ s.types.toList) : t.base? d = s.base? d := by
  have hbase := h.bases d hd
  unfold Schema.base?
  cases hb : d.base with
  | none => rfl
  | some p => exact h.types p (hbase p hb)

theorem chainFrom (n : Nat) {seen : List String} {o : Option TypeDecl}
    (ho : ∀ d ∈ o, d ∈ s.types.toList) : t.chainFrom n seen o = s.chainFrom n seen o := by
  induction n generalizing seen o with
  | zero => rfl
  | succ n ih =>
      cases o with
      | none => rfl
      | some d =>
          unfold Schema.chainFrom
          split
          · rfl
          · rw [h.base? (ho d rfl)]
            exact congrArg (d :: ·) (ih fun _ he => mem_types_of_base? he)

/-- **The chain of a type** is the same. -/
theorem chain (hp : K path) : t.chain path = s.chain path := by
  have hall : ∀ d ∈ s.type? path, d ∈ s.types.toList := fun _ => mem_types_of_type?
  have hle : s.unseenTypes [] ≤ s.types.toList.length := List.countP_le_length
  have hsize := h.size
  rw [Schema.chain, Schema.chain, h.types path hp, h.chainFrom _ hall]
  exact chainFrom_of_lt hall (by omega) (by omega)

theorem flattened (hp : K path) : t.flattened path = s.flattened path :=
  congrArg (visible []) (h.chain hp)

theorem readable (hp : K path) : t.readable path = s.readable path :=
  congrArg (List.filter fun p : Property => p.access.readable) (h.flattened hp)

theorem settable (hp : K path) : t.settable path = s.settable path :=
  congrArg (List.filter fun p : Property => p.access.settable) (h.flattened hp)

theorem methodsNamed (hp : K path) (name : String) :
    t.methodsNamed path name = s.methodsNamed path name := by
  rw [Schema.methodsNamed, Schema.methodsNamed, h.chain hp]

theorem within_of_mem_flattened (hp : p ∈ s.flattened path) : p.Within K := by
  obtain ⟨d, hd, hpd⟩ := exists_of_mem_flattened hp
  exact h.properties d hd p hpd

/-! ## 3. Value semantics -/

omit h

mutual

theorem isByValue_of_types {s t : Schema} (htypes : ∀ p, K p → t.type? p = s.type? p) :
    (u : TypeRef) → u.Within K → t.isByValue u = s.isByValue u
  | .scalar .., _ => rfl
  | .object p _, hu => by
      rw [Schema.isByValue, Schema.isByValue, htypes p (hu p List.mem_cons_self)]
  | .collection .., _ => rfl
  | .map .., _ => rfl
  | .tuple us _, hu => areByValue_of_types htypes us hu

theorem areByValue_of_types {s t : Schema} (htypes : ∀ p, K p → t.type? p = s.type? p) :
    (us : List TypeRef) → (∀ p ∈ TypeRef.objectPathsOf us, K p) →
      t.areByValue us = s.areByValue us
  | [], _ => rfl
  | u :: us, hus => by
      rw [Schema.areByValue, Schema.areByValue,
        isByValue_of_types htypes u fun p hp => hus p (List.mem_append_left _ hp),
        areByValue_of_types htypes us fun p hp => hus p (List.mem_append_right _ hp)]

end

include h

/-- **Values of a type** are copied bit by bit in both schemas or in none. -/
theorem isByValue {u : TypeRef} (hu : u.Within K) : t.isByValue u = s.isByValue u :=
  isByValue_of_types h.types u hu

/-! ## 4. Paths of properties -/

theorem hop (hp : K path) (name : String) : t.hop path name = s.hop path name := by
  simp only [Schema.hop, readable?, h.hasType hp, h.flattened hp]

theorem hop_gives (path name : String) : Gives (Property.Within K) (s.hop path name) := by
  unfold Schema.hop
  split
  · split
    · rename_i p hp
      exact gives_ok (h.within_of_mem_flattened (List.mem_of_find?_eq_some hp))
    · exact gives_error _
  · exact gives_error _

theorem walkFrom_gives (previous : Property) (names : List String) :
    Gives (fun ps => ∀ p ∈ ps, p.Within K) (s.walkFrom previous names) := by
  induction names generalizing previous with
  | nil => exact gives_ok fun p hp => absurd hp List.not_mem_nil
  | cons name rest ih =>
      unfold Schema.walkFrom
      split
      · exact gives_error _
      · refine (h.hop_gives _ name).bind fun p hp => (ih p).bind fun ps hps => gives_ok ?_
        exact List.forall_mem_cons.mpr ⟨hp, hps⟩

/-- What is found along a dotted path mentions paths of the set only. -/
theorem walk_gives (root dotted : String) :
    Gives (fun ps => ∀ p ∈ ps, p.Within K) (s.walk root dotted) := by
  unfold Schema.walk
  cases PropertyPath.segments dotted with
  | nil => exact gives_ok fun p hp => absurd hp List.not_mem_nil
  | cons name rest =>
      refine (h.hop_gives root name).bind fun p hp => (h.walkFrom_gives p rest).bind
        fun ps hps => gives_ok ?_
      exact List.forall_mem_cons.mpr ⟨hp, hps⟩

theorem walkFrom {previous : Property} (hprevious : previous.Within K) (names : List String) :
    t.walkFrom previous names = s.walkFrom previous names := by
  induction names generalizing previous with
  | nil => rfl
  | cons name rest ih =>
      unfold Schema.walkFrom
      cases hpath : previous.ty.objectPath? with
      | none => rfl
      | some path =>
          dsimp only
          rw [h.hop (hprevious.ty.of_objectPath? hpath)]
          cases hhop : s.hop path name with
          | error e => rfl
          | ok p =>
              exact congrArg (fun x => x >>= fun ps => pure (p :: ps)) (ih (h.hop_gives _ _ p hhop))

/-- **The properties along a dotted path** are the same. -/
theorem walk (hroot : K root) (dotted : String) : t.walk root dotted = s.walk root dotted := by
  unfold Schema.walk
  cases PropertyPath.segments dotted with
  | nil => rfl
  | cons name rest =>
      show t.hop root name >>= _ = s.hop root name >>= _
      rw [h.hop hroot]
      cases hhop : s.hop root name with
      | error e => rfl
      | ok p =>
          exact congrArg (fun x => x >>= fun ps => pure (p :: ps))
            (h.walkFrom (h.hop_gives _ _ p hhop) rest)

end AgreesOn

end Schema

/-! ## 5. Matchings -/

namespace Sides

variable {schema schema' : Schema} {s : Sides}
  (hwalk : schema'.walk s.key.source = schema.walk s.key.source)

include hwalk

theorem pathClaims_congr : s.pathClaims schema' = s.pathClaims schema := by
  have hclaim : s.pathClaim? schema' = s.pathClaim? schema := by
    funext p
    simp only [pathClaim?, hwalk]
  rw [pathClaims, pathClaims, hclaim]

theorem fate_congr : s.fate schema' = s.fate schema := by
  have hroots : s.pathRoots schema' = s.pathRoots schema := by
    rw [pathRoots, pathRoots, pathClaims_congr hwalk]
  funext p
  unfold fate
  rw [hroots]

theorem sourcesOf_congr (f : Fate) : s.sourcesOf schema' f = s.sourcesOf schema f := by
  simp only [sourcesOf, fate_congr hwalk]

theorem claimers_congr : s.claimers schema' = s.claimers schema := by
  have hclaim : s.sourceClaim? schema' = s.sourceClaim? schema := by
    funext p
    simp only [sourceClaim?, fate_congr hwalk]
  funext name
  simp only [claimers, claims, pathClaims_congr hwalk, hclaim]

theorem pairs_congr : s.pairs schema' = s.pairs schema := by
  have hpair : s.pair? schema' = s.pair? schema := by
    funext d
    simp only [pair?, claimers_congr hwalk]
  rw [pairs, pairs, hpair]

theorem leftovers_congr : s.leftovers schema' = s.leftovers schema := by
  simp only [leftovers, claimers_congr hwalk]

theorem pathReport?_congr : s.pathReport? schema' = s.pathReport? schema := by
  funext p
  simp only [pathReport?, hwalk]

theorem conflictReport?_congr : s.conflictReport? schema' = s.conflictReport? schema := by
  funext d
  simp only [conflictReport?, claimers_congr hwalk]

end Sides

/-- The types that a conversion names are at paths of a set. -/
def Conversion.Within (K : String → Prop) : Conversion → Prop
  | .mapper source destination => K source ∧ K destination
  | _ => True

/-- What a pair mentions is in a set of paths. -/
structure PropertyMatch.Within (K : String → Prop) (m : PropertyMatch) : Prop where
  source : ∀ p ∈ m.source, p.ty.Within K
  destination : m.destination.ty.Within K
  conversion : ∀ c ∈ m.directives.conversion, c.Within K

/-- **The conversion of a property** is one that some entry asks for. -/
theorem Property.exists_of_conversion {p : Property} {owner : String} {index : Option UInt32}
    {c : Conversion} (h : (p.effective owner index).1.conversion = some c) :
    ∃ e ∈ p.directives, e.directive.conversion? = some c := by
  obtain ⟨_, heffective⟩ := p.effective_eq owner index
  rw [heffective] at h
  cases hignored : p.isIgnored index with
  | true => rw [hignored] at h; cases h
  | false =>
      rw [hignored] at h
      obtain ⟨_, e, he, -, -, hasks⟩ := Property.asks_of_first h
      exact ⟨e, he, hasks⟩

theorem Property.Within.conversion {K : String → Prop} {p : Property} (hp : p.Within K)
    (owner : String) (index : Option UInt32) :
    ∀ c ∈ (p.effective owner index).1.conversion, c.Within K := by
  intro c hc
  obtain ⟨e, he, hasked⟩ := Property.exists_of_conversion hc
  have hoperands := hp.operands e he
  generalize e.directive = directive at hasked hoperands
  cases directive with
  | useMapper source destination =>
      obtain rfl := Option.some.inj hasked
      exact ⟨hoperands _ List.mem_cons_self,
        hoperands _ (List.mem_cons_of_mem _ List.mem_cons_self)⟩
  | useMethod name =>
      obtain rfl := Option.some.inj hasked
      trivial
  | useResolver path =>
      obtain rfl := Option.some.inj hasked
      trivial
  | _ => cases hasked

namespace Schema.AgreesOn

variable {K : String → Prop} {s t : Schema} (h : s.AgreesOn K t) {key : MappingKey}
  (hsource : K key.source) (hdestination : K key.destination) (index : Option UInt32)

include h

theorem typeDirectives {path : String} (hp : K path) :
    t.typeDirectives path index = s.typeDirectives path index := by
  rw [Schema.typeDirectives, Schema.typeDirectives, h.types path hp]

/-- The claims on destinations mention paths of the set only. -/
theorem within_of_mem_claims {c : Claim}
    (hc : c ∈ (Sides.ofSchema s key index).claims s) :
    (∀ p ∈ c.source, p.Within K) ∧ ∀ d ∈ c.directives.conversion, d.Within K := by
  rcases List.mem_append.mp hc with hc | hc
  · obtain ⟨p, -, hp⟩ := List.mem_filterMap.mp hc
    obtain ⟨hops, hwalk, rfl⟩ := Sides.pathClaim?_eq_some_iff.mp hp
    exact ⟨h.walk_gives _ _ hops hwalk, nofun⟩
  · obtain ⟨p, hmem, hp⟩ := List.mem_filterMap.mp hc
    obtain ⟨target, -, rfl⟩ := Sides.sourceClaim?_eq_some_iff.mp hp
    obtain ⟨q, hq, rfl⟩ := List.mem_map.mp hmem
    have hwithin := h.within_of_mem_flattened (List.mem_filter.mp hq).1
    refine ⟨fun r hr => ?_, hwithin.conversion _ _⟩
    rwa [List.mem_singleton.mp hr]

/-- **The pairs of a matching** mention paths of the set only. -/
theorem within_of_mem_pairs {m : PropertyMatch}
    (hm : m ∈ (TypeMapper.matchProperties s key index).pairs) : m.Within K := by
  obtain ⟨d, hd, c, hcs, rfl⟩ := Sides.exists_of_mem_pairs hm
  obtain ⟨q, hq, rfl⟩ := List.mem_map.mp (List.mem_filter.mp hd).1
  have hdest := h.within_of_mem_flattened (List.mem_filter.mp hq).1
  have hc : c ∈ (Sides.ofSchema s key index).claimers s q.name := hcs ▸ List.mem_cons_self
  obtain ⟨hsources, hconversion⟩ := h.within_of_mem_claims index (List.mem_filter.mp hc).1
  exact ⟨fun p hp => (hsources p hp).ty, hdest.ty, hconversion⟩

include hsource hdestination

/-- **The matching of two types** is the same. -/
theorem matchProperties : matchProperties t key index = TypeMapper.matchProperties s key index := by
  have hsides : Sides.ofSchema t key index = Sides.ofSchema s key index := by
    rw [Sides.ofSchema, Sides.ofSchema, h.readable hsource, h.settable hdestination,
      h.typeDirectives index hsource, h.typeDirectives index hdestination]
  have hwalk : t.walk (Sides.ofSchema s key index).key.source =
      s.walk (Sides.ofSchema s key index).key.source := funext fun dotted => h.walk hsource dotted
  unfold TypeMapper.matchProperties
  dsimp only
  rw [hsides, Sides.pairs_congr hwalk, Sides.leftovers_congr hwalk, Sides.sourcesOf_congr hwalk,
    Sides.sourcesOf_congr hwalk, Sides.pathReport?_congr hwalk, Sides.conflictReport?_congr hwalk,
    h.typeDirectives index hsource, h.typeDirectives index hdestination,
    h.settable hdestination, h.readable hsource]

end Schema.AgreesOn

end TypeMapper
