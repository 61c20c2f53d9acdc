import TypeMapper.Proofs.Batch.Extension
import TypeMapper.Proofs.Batch.Phases
import TypeMapper.Proofs.Construction.Codes
import TypeMapper.Proofs.Schema.Cycles
/-!
# What a run discovers

A mapping is declared on either of its two types, so several entries may declare one pair, with
different indexes. The first one counts, in the order of the paths of types and of the entries on
a type; each further one is reported, and so is each one that names an unknown type. Both types of a
mapping are known from then on, so construction never breaks off.

* `Schema.declarations`: the entries that declare a pair; `mem_declarations_iff`,
  `pairwise_declarations` say which and in which order.
* `Declaration.IsFirst`: no entry before declares the pair.
* `Arena.declareAll_declarations`: the arena of sorted declarations, and its reports.
* `Batch.exists_built`: what the phases behind construction change; `Batch.codes_of_get?`.
* `Batch.discovers`: the mappings and the reports of a batch.
-/

namespace TypeMapper

open Diagnostic

/-! ## 1. Declarations -/

/-- An entry that declares a mapping: the type it is on, its position among the entries there, and
the pair of types. -/
structure Declaration where
  path : String
  position : Nat
  entry : DirectiveEntry
  key : MappingKey
  deriving DecidableEq

/-- A directive on the type at a path declares a mapping from it or to it. -/
def Directive.Declares (path : String) (key : MappingKey) : Directive → Prop
  | .mapTo d => key = ⟨path, d⟩
  | .mapFrom s => key = ⟨s, path⟩
  | _ => False

theorem declaredKey?_eq_some_iff {t : TypeDecl} {d : Directive} {key : MappingKey} :
    declaredKey? t d = some key ↔ d.Declares t.path key := by
  cases d with
  | mapTo q => exact Option.some_inj.trans eq_comm
  | mapFrom q => exact Option.some_inj.trans eq_comm
  | _ => exact iff_of_false nofun id

namespace Declaration

/-- A declaration stands before another one: its type comes first, or its entry on their type. -/
def Before (d e : Declaration) : Prop := d.path < e.path ∨ d.path = e.path ∧ d.position < e.position

instance : DecidableRel Before := fun d e =>
  inferInstanceAs (Decidable (d.path < e.path ∨ d.path = e.path ∧ d.position < e.position))

theorem Before.asymm {d e : Declaration} (h : d.Before e) : ¬ e.Before d := by
  rintro (hlt' | ⟨heq', hpos'⟩) <;> rcases h with hlt | ⟨heq, hpos⟩
  · exact String.lt_irrefl _ (String.lt_trans hlt hlt')
  · exact String.lt_irrefl _ (heq ▸ hlt')
  · exact String.lt_irrefl _ (heq' ▸ hlt)
  · exact Nat.lt_asymm hpos hpos'

theorem Before.irrefl (d : Declaration) : ¬ d.Before d := fun h => h.asymm h

/-- **No declaration of the pair stands before.** -/
def IsFirst (ds : List Declaration) (d : Declaration) : Prop :=
  ∀ e ∈ ds, e.Before d → e.key ≠ d.key

instance (ds : List Declaration) : DecidablePred (IsFirst ds) := fun d =>
  inferInstanceAs (Decidable (∀ e ∈ ds, e.Before d → e.key ≠ d.key))

/-- What is declared. -/
def candidate (d : Declaration) : Candidate := ⟨d.key, d.entry.index, d.path⟩

/-- The report on a further declaration of a pair. -/
def furtherReport (d : Declaration) : Diagnostic :=
  Diagnostic.report .duplicateMapping (Location.ofType d.path)
    ("mapping " ++ d.key.text ++ " is declared more than once")

end Declaration

namespace Schema

/-- Both types of a pair are in the schema. -/
def KnowsBoth (s : Schema) (key : MappingKey) : Prop :=
  s.hasType key.source = true ∧ s.hasType key.destination = true

instance (s : Schema) : DecidablePred s.KnowsBoth := fun key =>
  inferInstanceAs (Decidable (s.hasType key.source = true ∧ s.hasType key.destination = true))

/-- The report on a declaration of a pair with a type that is not in the schema. -/
def unknownReport (s : Schema) (d : Declaration) : Diagnostic :=
  Diagnostic.report .unresolvedDirectiveType (Location.ofType d.path)
    ("'" ++ d.entry.directive.name ++ "' declares mapping " ++ d.key.text ++ " but '"
      ++ "', '".intercalate (s.missing d.key) ++ "' is not in the schema")

/-- The declarations on a type. -/
def declarationsOn (t : TypeDecl) : List Declaration :=
  t.directives.zipIdx.filterMap fun p =>
    (declaredKey? t p.1.directive).map (Declaration.mk t.path p.2 p.1)

/-- **The declarations of a schema**, in the order of the paths of types and of the entries
there. -/
def declarations (s : Schema) : List Declaration := s.types.toList.flatMap declarationsOn

variable {s : Schema} {d : Declaration} {t : TypeDecl}

theorem mem_declarationsOn_iff : d ∈ declarationsOn t ↔ d.path = t.path ∧
    t.directives[d.position]? = some d.entry ∧ d.entry.directive.Declares t.path d.key := by
  unfold declarationsOn
  simp only [List.mem_filterMap, Option.map_eq_some_iff, Prod.exists, List.mem_zipIdx_iff_getElem?,
    declaredKey?_eq_some_iff]
  constructor
  · rintro ⟨e, i, hentry, key, hkey, rfl⟩
    exact ⟨rfl, hentry, hkey⟩
  · rintro ⟨hpath, hentry, hkey⟩
    exact ⟨d.entry, d.position, hentry, d.key, hkey, hpath ▸ rfl⟩

/-- **The declarations** are the entries of types in the schema that declare a mapping. -/
theorem mem_declarations_iff : d ∈ s.declarations ↔ ∃ t, s.type? d.path = some t ∧
    t.directives[d.position]? = some d.entry ∧ d.entry.directive.Declares d.path d.key := by
  unfold declarations
  rw [List.mem_flatMap]
  refine exists_congr fun t => ?_
  rw [mem_declarationsOn_iff, type?_eq_some_iff]
  constructor
  · rintro ⟨ht, hpath, hentry, hkey⟩
    exact ⟨⟨ht, hpath.symm⟩, hentry, hpath ▸ hkey⟩
  · rintro ⟨⟨ht, hpath⟩, hentry, hkey⟩
    exact ⟨ht, hpath.symm, hentry, hpath ▸ hkey⟩

theorem pairwise_declarationsOn (t : TypeDecl) :
    (declarationsOn t).Pairwise Declaration.Before := by
  have hpositions : t.directives.zipIdx.Pairwise fun p q => p.2 < q.2 := by
    rw [← List.pairwise_map, List.zipIdx_map_snd]
    exact List.pairwise_lt_range'
  refine hpositions.filterMap _ fun p q hlt d hd e he => ?_
  obtain ⟨k, -, rfl⟩ := Option.map_eq_some_iff.mp hd
  obtain ⟨l, -, rfl⟩ := Option.map_eq_some_iff.mp he
  exact .inr ⟨rfl, hlt⟩

/-- **The declarations are in order.** -/
theorem pairwise_declarations (s : Schema) : s.declarations.Pairwise Declaration.Before := by
  refine List.pairwise_flatMap.mpr ⟨fun t _ => pairwise_declarationsOn t, ?_⟩
  refine s.types.sorted.imp fun {t u} hlt d hd e he => .inl ?_
  rwa [(mem_declarationsOn_iff.mp hd).1, (mem_declarationsOn_iff.mp he).1]

theorem isEmpty_missing_iff {key : MappingKey} :
    (s.missing key).isEmpty = true ↔ s.KnowsBoth key := by
  simp [missing, KnowsBoth]

/-- What is made of some of the declarations on a type is made of entries there. -/
theorem map_filter_declarationsOn {β : Type} {keep : Declaration → Bool} {f : Declaration → β}
    {g : DirectiveEntry → Option β}
    (h : ∀ e i, (((declaredKey? t e.directive).map (Declaration.mk t.path i e)).filter keep).map f =
      g e) :
    ((declarationsOn t).filter keep).map f = t.directives.filterMap g := by
  have hentries : t.directives.filterMap g = t.directives.zipIdx.filterMap (g ∘ Prod.fst) := by
    rw [← List.filterMap_map, List.zipIdx_map_fst]
  rw [hentries, declarationsOn, List.filter_filterMap, List.map_filterMap]
  exact List.filterMap_congr fun p _ => h p.1 p.2

/-- **The candidates are the declarations of pairs of known types.** -/
theorem candidates_eq (s : Schema) :
    s.candidates =
      (s.declarations.filter fun d => s.KnowsBoth d.key).map Declaration.candidate := by
  unfold candidates declarations
  rw [List.filter_flatMap, List.map_flatMap]
  refine List.flatMap_congr fun t _ => (map_filter_declarationsOn fun e i => ?_).symm
  unfold candidate?
  cases declaredKey? t e.directive with
  | none => rfl
  | some k =>
      by_cases hk : s.KnowsBoth k
      · simp [hk, isEmpty_missing_iff.mpr hk, Declaration.candidate]
      · simp [hk, mt isEmpty_missing_iff.mp hk]

/-- **The reports on candidates** are on the declarations of pairs with an unknown type. -/
theorem candidateReports_eq (s : Schema) :
    s.candidateReports =
      (s.declarations.filter fun d => ¬ s.KnowsBoth d.key).map s.unknownReport := by
  unfold candidateReports declarations
  rw [List.filter_flatMap, List.map_flatMap]
  refine List.flatMap_congr fun t _ => (map_filter_declarationsOn fun e i => ?_).symm
  unfold candidateReport?
  cases declaredKey? t e.directive with
  | none => rfl
  | some k =>
      by_cases hk : s.KnowsBoth k
      · simp [hk, isEmpty_missing_iff.mpr hk]
      · simp [hk, mt isEmpty_missing_iff.mp hk, unknownReport]

end Schema

/-! ## 2. The arena of declarations -/

/-- A declaration that comes behind some others, among sorted ones, is the first of its pair exactly
if none of those has the pair. -/
theorem Declaration.isFirst_append_cons_iff {pre rest : List Declaration} {d : Declaration}
    (h : (pre ++ d :: rest).Pairwise Before) :
    d.IsFirst (pre ++ d :: rest) ↔ ∀ e ∈ pre, e.key ≠ d.key := by
  obtain ⟨-, hrest, hpre⟩ := List.pairwise_append.mp h
  constructor
  · exact fun hfirst e he => hfirst e (List.mem_append_left _ he) (hpre e he d List.mem_cons_self)
  · intro hfree e he hbefore
    rcases List.mem_append.mp he with he | he
    · exact hfree e he
    · rcases List.mem_cons.mp he with rfl | he
      · exact absurd hbefore (Before.irrefl e)
      · exact absurd hbefore ((List.pairwise_cons.mp hrest).1 e he).asymm

/-- **Declaring sorted declarations** allocates the first one of each pair and reports the others;
`pre` are those that the arena has been through. -/
theorem Arena.declareAll_declarations {a : Arena} {pre ds : List Declaration}
    (h : (pre ++ ds).Pairwise Declaration.Before)
    (hkeys : ∀ key, key ∈ a.keys ↔ ∃ d ∈ pre, d.key = key) :
    (a.declareAll (ds.map Declaration.candidate)).1.mappings =
        a.mappings ++
          ((ds.filter fun d => d.IsFirst (pre ++ ds)).map fun d => d.candidate.declare) ∧
      (a.declareAll (ds.map Declaration.candidate)).2 =
        (ds.filter fun d => ¬ d.IsFirst (pre ++ ds)).map Declaration.furtherReport := by
  induction ds generalizing a pre with
  | nil => exact ⟨(List.append_nil _).symm, rfl⟩
  | cons d rest ih =>
      have hfirst := Declaration.isFirst_append_cons_iff h
      have hsplit : pre ++ d :: rest = (pre ++ [d]) ++ rest := List.append_cons pre d rest
      have hthrough (b : Arena) (hb : ∀ key, key ∈ b.keys ↔ key ∈ a.keys ∨ d.key = key) :
          ∀ key, key ∈ b.keys ↔ ∃ e ∈ pre ++ [d], e.key = key := fun key => by
        rw [hb, hkeys]
        simp only [List.mem_append, List.mem_singleton, or_and_right, exists_or, exists_eq_left]
      rw [List.map_cons]
      unfold declareAll
      by_cases hmem : d.key ∈ a.keys
      · -- the pair is taken by one of those before
        have hnot : ¬ d.IsFirst (pre ++ d :: rest) := fun hall => by
          obtain ⟨e, he, hkey⟩ := (hkeys d.key).mp hmem
          exact hfirst.mp hall e he hkey
        have hnone : a.allocate? d.candidate.key d.candidate.index d.candidate.declaredOn = none :=
          allocate?_eq_none_iff.mpr hmem
        obtain ⟨hmappings, hreports⟩ := ih (a := a) (hsplit ▸ h) (hthrough a fun key =>
          ⟨.inl, fun hor => hor.elim id fun heq => heq ▸ hmem⟩)
        rw [← hsplit] at hmappings hreports
        rw [hnone, List.filter_cons_of_neg (by simpa using hnot),
          List.filter_cons_of_pos (by simpa using hnot), List.map_cons, ← hreports]
        exact ⟨hmappings, rfl⟩
      · have hyes : d.IsFirst (pre ++ d :: rest) := hfirst.mpr fun e he hkey =>
          hmem ((hkeys d.key).mpr ⟨e, he, hkey⟩)
        obtain ⟨b, halloc, hb⟩ : ∃ b, a.allocate? d.candidate.key d.candidate.index
            d.candidate.declaredOn = some (b, a.size) ∧
              b.mappings = a.mappings ++ [d.candidate.declare] := exists_allocate? hmem _ _
        obtain ⟨hmappings, hreports⟩ := ih (a := b) (hsplit ▸ h) (hthrough b fun key => by
          rw [keys, hb, List.map_append, List.mem_append, List.map_singleton, List.mem_singleton,
            eq_comm (a := key)]
          rfl)
        rw [← hsplit] at hmappings hreports
        rw [halloc, List.filter_cons_of_pos (by simpa using hyes),
          List.filter_cons_of_neg (by simpa using hyes), List.map_cons, List.append_cons, ← hb]
        exact ⟨hmappings, hreports⟩

namespace Schema

variable {s : Schema} {d : Declaration}

/-- Whether a declaration is the first of its pair does not depend on those of unknown types. -/
theorem isFirst_filter_knowsBoth_iff (hd : s.KnowsBoth d.key) :
    d.IsFirst (s.declarations.filter fun e : Declaration => s.KnowsBoth e.key) ↔
      d.IsFirst s.declarations := by
  constructor
  · intro h e he hbefore hkey
    have hknown : s.KnowsBoth e.key := hkey ▸ hd
    exact h e (List.mem_filter.mpr ⟨he, decide_eq_true hknown⟩) hbefore hkey
  · exact fun h e he => h e (List.mem_of_mem_filter he)

/-- The declarations that have a mapping: the first ones of pairs of known types. -/
def leading (s : Schema) : List Declaration :=
  s.declarations.filter fun d => s.KnowsBoth d.key ∧ d.IsFirst s.declarations

/-- The declarations of pairs of known types that have been declared before. -/
def further (s : Schema) : List Declaration :=
  s.declarations.filter fun d => s.KnowsBoth d.key ∧ ¬ d.IsFirst s.declarations

/-- **The declared mappings** are those of the leading declarations, in order, and the further ones
are reported. -/
theorem declareAll_candidates (s : Schema) :
    s.declared.mappings = s.leading.map (fun d => d.candidate.declare) ∧
      (Arena.empty.declareAll s.candidates).2 = s.further.map Declaration.furtherReport := by
  have hsorted : ([] ++ s.declarations.filter fun d : Declaration => s.KnowsBoth d.key).Pairwise
      Declaration.Before := s.pairwise_declarations.filter _
  obtain ⟨hmappings, hreports⟩ := Arena.declareAll_declarations (a := Arena.empty) hsorted
    fun key => iff_of_false List.not_mem_nil fun ⟨_, hd, _⟩ => List.not_mem_nil hd
  rw [← candidates_eq, List.nil_append, List.filter_filter] at hmappings hreports
  constructor
  · rw [declared, hmappings, leading]
    refine congrArg (List.map _) (List.filter_congr fun d _ => ?_)
    by_cases hd : s.KnowsBoth d.key <;> simp [hd, isFirst_filter_knowsBoth_iff]
  · rw [hreports, further]
    refine congrArg (List.map _) (List.filter_congr fun d _ => ?_)
    by_cases hd : s.KnowsBoth d.key <;> simp [hd, isFirst_filter_knowsBoth_iff]

/-- **A declared pair has a first declaration.** -/
theorem exists_leading_iff {key : MappingKey} : (∃ d ∈ s.leading, d.key = key) ↔
    s.KnowsBoth key ∧ ∃ d ∈ s.declarations, d.key = key := by
  constructor
  · rintro ⟨d, hd, rfl⟩
    obtain ⟨hmem, hkeep⟩ := List.mem_filter.mp hd
    exact ⟨(of_decide_eq_true hkeep).1, d, hmem, rfl⟩
  · rintro ⟨hknows, e, he, hkey⟩
    have hsome : (s.declarations.find? fun d => d.key = key).isSome :=
      List.find?_isSome.mpr ⟨e, he, decide_eq_true hkey⟩
    obtain ⟨d, hd⟩ := Option.isSome_iff_exists.mp hsome
    obtain ⟨hdkey, pre, rest, hsplit, hfree⟩ := List.find?_eq_some_iff_append.mp hd
    obtain rfl := of_decide_eq_true hdkey
    have hfirst : d.IsFirst s.declarations := by
      have hsorted := s.pairwise_declarations
      rw [hsplit] at hsorted ⊢
      exact (Declaration.isFirst_append_cons_iff hsorted).mpr fun f hf => by simpa using hfree f hf
    exact ⟨d, List.mem_filter.mpr ⟨List.mem_of_find?_eq_some hd, decide_eq_true ⟨hknows, hfirst⟩⟩,
      rfl⟩

end Schema

/-! ## 3. Phases -/

/-- What a mapping is declared with. -/
def Mapping.declaration (m : Mapping) : Candidate := ⟨m.key, m.index, m.declaredOn⟩

theorem Mapping.declaration_buildFrom (c : BuildContext) (id : MappingId) (m : Mapping)
    (source destination : TypeDecl) :
    (m.buildFrom c id source destination).declaration = m.declaration := by
  simp only [declaration, buildFrom]

theorem Arena.exists_get?_iff {a : Arena} {id : MappingId} :
    (∃ m, a.get? id = some m) ↔ id < a.size :=
  ⟨fun ⟨_, hm⟩ => lt_size_of_get? hm, get?_of_lt_size⟩

/-- Two arenas with the same pairs, of which each mapping has the same of some part. -/
theorem Arena.map_mappings_eq {β : Type} {a b : Arena} {f : Mapping → β} (hkeys : a.keys = b.keys)
    (h : ∀ id m, a.get? id = some m → ∃ n, b.get? id = some n ∧ f m = f n) :
    a.mappings.map f = b.mappings.map f := by
  refine List.ext_getElem? fun id => ?_
  rw [List.getElem?_map, List.getElem?_map, mappings_getElem?, mappings_getElem?]
  cases hm : a.get? id with
  | none =>
      have hb : b.get? id = none := get?_eq_none_iff.mpr
        (size_of_keys hkeys ▸ get?_eq_none_iff.mp hm)
      rw [hb]
  | some m =>
      obtain ⟨n, hn, heq⟩ := h id m hm
      rw [hn, Option.map_some, Option.map_some, heq]

namespace Batch

variable {s : Schema} {c : Config} {id : MappingId} {m : Mapping}

/-- What is reported when a mapping is checked, or rejected for its delegates. -/
def checkCodes : List DiagnosticCode :=
  [.leftoverDestinationProperty, .unclaimedSourceProperty, .noPropertyMappings,
   .missingDelegateResolution, .expressionOmission, .invalidDelegate]

theorem check_codes (c : Config) (m : Mapping) : CodesIn checkCodes (m.check c) := by
  have hleftover : DiagnosticCode.leftoverDestinationProperty ∈ checkCodes := by decide
  have hunclaimed : DiagnosticCode.unclaimedSourceProperty ∈ checkCodes := by decide
  have hmissing : DiagnosticCode.missingDelegateResolution ∈ checkCodes := by decide
  have hempty : CodesIn checkCodes m.emptyReports := by
    unfold Mapping.emptyReports
    split
    · exact .report (by decide) _ _
    · exact .nil
  refine (CodesIn.append (.append (.map fun _ _ => hleftover) (.map fun _ _ => hunclaimed))
    hempty).append (.flatMap fun p _ => .append (.map fun _ _ => hmissing) ?_)
  unfold Mapping.omissionReports
  split
  · exact .report (by decide) _ _
  · exact .nil

/-- **The phases behind construction** change the calls, the flag and the parameters of a mapping,
and add reports. -/
theorem exists_built (h : (discover s c).arena.get? id = some m) : ∃ n g flag ds,
    (s.built c).get? id = some n ∧ CodesIn checkCodes ds ∧
      m = (((n.mapDelegates g).withAsync flag).withParameters
        ((s.resolved c).entryParameters id)).report ds := by
  obtain ⟨resolved, ds, hresolved, hrejections, heq⟩ := exists_parameterized h
  obtain ⟨n, g, flag, hn, rfl⟩ := Schema.get?_resolved hresolved
  have hrejected : CodesIn checkCodes ds := fun r hr => by
    obtain ⟨k, t, rfl⟩ := hrejections r hr
    show DiagnosticCode.invalidDelegate ∈ checkCodes
    decide
  exact ⟨n, g, flag, _, hn, (check_codes c _).append hrejected, heq⟩

/-- What is reported on a mapping of a batch. -/
def mappingCodes : List DiagnosticCode := .parameterCollision :: buildCodes ++ checkCodes

/-- **What is reported on a mapping** comes from construction, from its parameters or from the
checks. -/
theorem codes_of_get? (h : (discover s c).arena.get? id = some m) :
    CodesIn mappingCodes m.diagnostics := by
  obtain ⟨n, g, flag, ds, hn, hds, rfl⟩ := exists_built h
  obtain ⟨d, -, source, destination, rfl⟩ := Schema.get?_built hn
  have hbuilt : CodesIn mappingCodes ((Mapping.declare d.key d.index d.declaredOn).buildFrom
      (s.context c) id source destination).diagnostics :=
    (Mapping.codes_buildFrom _ _ _ _ .nil).mono (by decide)
  have hparameters : CodesIn mappingCodes ((s.resolved c).entryParameters id).reports := by
    cases hm : (s.resolved c).get? id with
    | none =>
        rw [Arena.entryParameters, hm]
        exact .nil
    | some root =>
        intro r hr
        obtain ⟨owner, p, -, rfl⟩ := (Arena.entryParameters_collects hm).reports r hr
        exact List.mem_cons_self
  exact (hbuilt.append hparameters).append (hds.mono (by decide))

/-- **What is known of a mapping when it is declared stays.** -/
theorem exists_declared (h : (discover s c).arena.get? id = some m) : ∃ n,
    s.declared.get? id = some n ∧ m.declaration = n.declaration := by
  obtain ⟨built, g, flag, ds, hbuilt, -, rfl⟩ := exists_built h
  have hdeclared := hbuilt
  rw [Schema.built, Arena.buildAll, Arena.get?_transform, Option.map_eq_some_iff] at hdeclared
  obtain ⟨n, hn, -⟩ := hdeclared
  obtain ⟨source, destination, -, -, hget⟩ := Schema.get?_built_of_declared (c := c) hn
  obtain rfl := Option.some.inj (hbuilt.symm.trans hget)
  -- what comes behind construction leaves the declaration alone
  have hframe (k : Mapping) : ((((k.mapDelegates g).withAsync flag).withParameters
      ((s.resolved c).entryParameters id)).report ds).declaration = k.declaration := rfl
  exact ⟨n, hn, (hframe _).trans (n.declaration_buildFrom (s.context c) id source destination)⟩

/-! ## 4. What a run discovers -/

/-- **What a batch holds for a schema.** -/
structure Discovers (s : Schema) (b : Batch) : Prop where
  /-- The declarations are the entries on types of the schema that declare a pair. -/
  declarations : ∀ d, d ∈ s.declarations ↔ ∃ t, s.type? d.path = some t ∧
    t.directives[d.position]? = some d.entry ∧ d.entry.directive.Declares d.path d.key
  /-- They are in the order of the paths of types and of the positions there. -/
  ordered : s.declarations.Pairwise Declaration.Before
  /-- A pair has one mapping if it is declared and both of its types are known, and none if not. -/
  pairs : ∀ key, b.arena.keys.count key =
    if s.KnowsBoth key ∧ ∃ d ∈ s.declarations, d.key = key then 1 else 0
  /-- The mappings are those of the first declarations, in order. -/
  mappings : b.arena.mappings.map Mapping.declaration = s.leading.map Declaration.candidate
  /-- The ids that they were given are the numbers from zero on. -/
  ids : b.arena.tables.entries.map Prod.fst = List.range s.leading.length
  /-- The index has a row for each of these declarations, which leads from its pair to its number,
  and no other row. -/
  index : ∀ key id, (key, id) ∈ b.arena.tables.byKey.toList ↔
    ∃ d, s.leading[id]? = some d ∧ d.key = key
  /-- There is a mapping for each number below the number of these declarations. -/
  dense : ∀ id, (∃ m, b.arena.get? id = some m) ↔ id < s.leading.length
  /-- An id is found for a pair exactly if the mapping of that id has that pair. -/
  found : ∀ key id, b.arena.find? key = some id ↔ ∃ m, b.arena.get? id = some m ∧ m.key = key
  /-- Each declaration with an unknown type is reported, and each one of a pair declared before. -/
  reports : b.diagnostics =
    (s.declarations.filter fun d => ¬ s.KnowsBoth d.key).map s.unknownReport ++
      s.further.map Declaration.furtherReport
  /-- No construction breaks off. -/
  unbroken : ∀ id m, b.arena.get? id = some m →
    ∀ r ∈ m.diagnostics, r.code ≠ DiagnosticCode.internalError

theorem mappings_discover (s : Schema) (c : Config) :
    (discover s c).arena.mappings.map Mapping.declaration =
      s.leading.map Declaration.candidate := by
  rw [Arena.map_mappings_eq (keys_discover_declared s c) fun _ _ => exists_declared,
    s.declareAll_candidates.1, List.map_map]
  rfl

theorem size_discover_leading (s : Schema) (c : Config) :
    (discover s c).arena.size = s.leading.length := by
  have h := congrArg List.length (mappings_discover s c)
  rwa [List.length_map, List.length_map, Arena.length_mappings] at h

theorem keys_discover_leading (s : Schema) (c : Config) :
    (discover s c).arena.keys = s.leading.map Declaration.key := by
  have h := congrArg (List.map Candidate.key) (mappings_discover s c)
  rwa [List.map_map, List.map_map] at h

/-- **A batch holds** one mapping for each pair of known types that is declared, made of its first
declaration, and a report for every other declaration. -/
theorem discovers (s : Schema) (c : Config) : Discovers s (discover s c) where
  declarations _ := Schema.mem_declarations_iff
  ordered := s.pairwise_declarations
  pairs key := by
    have hmem : key ∈ (discover s c).arena.keys ↔
        s.KnowsBoth key ∧ ∃ d ∈ s.declarations, d.key = key := by
      rw [keys_discover_leading, List.mem_map, Schema.exists_leading_iff]
    simp only [← hmem]
    exact (discover s c).arena.nodup_keys.count
  mappings := mappings_discover s c
  ids := by
    rw [(discover s c).arena.written.linked.ids]
    exact congrArg List.range (size_discover_leading s c)
  index key id := by
    rw [Arena.mem_byKey_iff, Arena.find?_eq_some_iff_keys, keys_discover_leading, List.getElem?_map,
      Option.map_eq_some_iff]
  dense id := by
    rw [Arena.exists_get?_iff, size_discover_leading]
  found _ _ := Arena.find?_eq_some_iff
  reports := by
    rw [discover_eq, ← Schema.candidateReports_eq, ← s.declareAll_candidates.2]
  unbroken id m hm r hr hcode := by
    have hin : DiagnosticCode.internalError ∈ mappingCodes := hcode ▸ codes_of_get? hm r hr
    exact absurd hin (by decide)

end Batch

end TypeMapper
