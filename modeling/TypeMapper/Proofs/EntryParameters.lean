import Mathlib.Data.List.Nodup
import TypeMapper.EntryParameters
import TypeMapper.Proofs.Arena.Reachability
/-!
# The parameters of a routine

Parameters are taken one after the other, and each is in the list afterwards, perhaps under another
name, unless a collision was reported. So the list of a routine has the parameters of every mapping
that it reaches, and no others.

* `ParameterList.Adds`, `ParameterList.adds_add`: what may become of one more parameter.
* `ParameterList.Collects`: the INVARIANT of a list: its names and keys are distinct, none is taken
  otherwise, and it has what is needed or reports it.
* `ParameterList.Collects.step`, `ParameterList.Collects.foldl_addAll`: one parameter more, and many.
* `Arena.Needs`, `Arena.entryParameters_collects`: the list of a routine.
* `Arena.isIn_entryParameters`, `Arena.exists_of_mem_entryParameters`: what is in it.
* `Arena.Hoists`, `Arena.hoists_of_get?`: all that can be said of it.
-/

namespace TypeMapper

namespace ParameterList

variable {l k : ParameterList} {root owner : Mapping} {p : EntryParameter}
  {N N' : Mapping → EntryParameter → Prop}

/-! ## 1. One more parameter -/

/-- The name that a parameter gets if its own is taken: after the destination type of the mapping
that needs it. -/
def newName (owner : Mapping) (p : EntryParameter) : String :=
  TypePath.snakeIdent owner.destination ++ "_" ++ p.localName

/-- What is reported if that name is taken too. -/
def collision (root owner : Mapping) (p : EntryParameter) : Diagnostic :=
  Diagnostic.report .parameterCollision (Location.ofType root.destination)
    ("parameter '" ++ p.localName ++ "' required by '" ++ owner.key.text
      ++ "' collides with an existing parameter")

/-- What becomes of a list with one more parameter, which the mapping `owner` needs. -/
inductive Adds (root owner : Mapping) (l : ParameterList) (p : EntryParameter) :
    ParameterList → Prop
  | known (hin : p.isIn l.parameters = true) : Adds root owner l p l
  | taken (name : String) (hin : p.isIn l.parameters = false) (hfree : name ∉ l.taken root)
      (hname : name = p.name ∨ name = newName owner p) :
      Adds root owner l p { l with parameters := l.parameters ++ [{ p with name := name }] }
  | collides : Adds root owner l p { l with reports := l.reports ++ [collision root owner p] }

/-- **One more parameter** is known, or is taken under a free name, or collides. -/
theorem adds_add (root owner : Mapping) (l : ParameterList) (p : EntryParameter) :
    Adds root owner l p (l.add root owner p) := by
  unfold add
  dsimp only
  split
  · exact .known ‹_›
  · rename_i hin
    have hin := Bool.eq_false_iff.mpr hin
    split
    · rename_i hfree
      exact .taken p.name hin (by simpa using hfree) (.inl rfl)
    · split
      · exact .collides
      · rename_i hfree
        exact .taken (newName owner p) hin (by simpa [newName] using hfree) (.inr rfl)

/-! ## 2. The invariant -/

/-- **The invariant of a list** of parameters of `root`, after those that mappings need by `N`. -/
structure Collects (root : Mapping) (N : Mapping → EntryParameter → Prop) (l : ParameterList) :
    Prop where
  names : (l.parameters.map EntryParameter.name).Nodup
  free : ∀ q ∈ l.parameters,
    q.name ∉ reservedNames ∧ q.name ∉ root.resolvers.map ResolverInstance.ident
  keys : (l.parameters.map EntryParameter.key).Nodup
  /-- A parameter is one that a mapping needs, under its own name or under the new one. -/
  sound : ∀ q ∈ l.parameters, ∃ owner p, N owner p ∧
    (q = p ∨ q = { p with name := newName owner p })
  /-- What is needed is there, or its collision is reported. -/
  complete : ∀ owner p, N owner p →
    p.isIn l.parameters = true ∨ collision root owner p ∈ l.reports
  /-- Nothing else is reported. -/
  reports : ∀ d ∈ l.reports, ∃ owner p, N owner p ∧ d = collision root owner p

theorem collects_nil (root : Mapping) : Collects root (fun _ _ => False) ⟨[], []⟩ :=
  ⟨List.nodup_nil, nofun, List.nodup_nil, nofun, nofun, nofun⟩

/-- Only what is needed counts, not how that is said. -/
theorem Collects.congr (h : Collects root N l) (hN : ∀ o p, N o p ↔ N' o p) :
    Collects root N' l := by
  have heq : N = N' := funext fun o => funext fun p => propext (hN o p)
  exact heq ▸ h

theorem collision_isError (root owner : Mapping) (p : EntryParameter) :
    (collision root owner p).isError = true := rfl

/-- Without errors everything that is needed is there. -/
theorem Collects.isIn (h : Collects root N l) (hclean : Diagnostic.hasErrors l.reports = false)
    (hp : N owner p) : p.isIn l.parameters = true := by
  refine (h.complete owner p hp).resolve_right fun hd => ?_
  have herr : Diagnostic.hasErrors l.reports = true :=
    List.any_eq_true.mpr ⟨_, hd, collision_isError root owner p⟩
  exact absurd (herr.symm.trans hclean) Bool.noConfusion

theorem Collects.exists_key (h : Collects root N l) {q : EntryParameter} (hq : q ∈ l.parameters) :
    ∃ owner p, N owner p ∧ p.key = q.key := by
  obtain ⟨owner, p, hp, rfl | rfl⟩ := h.sound q hq
  · exact ⟨owner, q, hp, rfl⟩
  · exact ⟨owner, p, hp, rfl⟩

/-- **One parameter more** keeps the invariant. -/
theorem Collects.step (h : Collects root N l) (hadds : Adds root owner l p k) :
    Collects root (fun o q => N o q ∨ (o = owner ∧ q = p)) k := by
  -- what was there before is needed as before
  have hsound : ∀ q ∈ l.parameters, ∃ o r, (N o r ∨ (o = owner ∧ r = p)) ∧
      (q = r ∨ q = { r with name := newName o r }) := fun q hq => by
    obtain ⟨o, r, hr, hrq⟩ := h.sound q hq
    exact ⟨o, r, .inl hr, hrq⟩
  have hreports : ∀ d ∈ l.reports, ∃ o r, (N o r ∨ (o = owner ∧ r = p)) ∧ d = collision root o r :=
    fun d hd => by
      obtain ⟨o, r, hr, hrd⟩ := h.reports d hd
      exact ⟨o, r, .inl hr, hrd⟩
  cases hadds with
  | known hin =>
      refine ⟨h.names, h.free, h.keys, hsound, fun o q hq => ?_, hreports⟩
      rcases hq with hq | ⟨-, rfl⟩
      · exact h.complete o q hq
      · exact .inl hin
  | taken name hin hfree hname =>
      simp only [ParameterList.taken, List.mem_append, not_or] at hfree
      have hkey : p.key ∉ l.parameters.map EntryParameter.key := fun hk => by
        obtain ⟨q, hq, hkey⟩ := List.mem_map.mp hk
        exact absurd (EntryParameter.isIn_iff.mpr ⟨q, hq, hkey⟩) (Bool.eq_false_iff.mp hin)
      refine ⟨?_, ?_, ?_, ?_, fun o q hq => ?_, hreports⟩
      · rw [List.map_append, List.map_singleton, ← List.concat_eq_append]
        exact h.names.concat hfree.2
      · exact List.forall_mem_append.mpr ⟨h.free, List.forall_mem_singleton.mpr hfree.1⟩
      · rw [List.map_append, List.map_singleton, ← List.concat_eq_append]
        exact h.keys.concat hkey
      · refine List.forall_mem_append.mpr ⟨hsound, List.forall_mem_singleton.mpr ?_⟩
        refine ⟨owner, p, .inr ⟨rfl, rfl⟩, ?_⟩
        rcases hname with rfl | rfl
        · exact .inl rfl
        · exact .inr rfl
      · rcases hq with hq | ⟨-, rfl⟩
        · refine (h.complete o q hq).imp_left (EntryParameter.isIn_mono ?_)
          exact List.subset_append_left _ _
        · exact .inl (EntryParameter.isIn_iff.mpr ⟨_, List.mem_concat_self, rfl⟩)
  | collides =>
      refine ⟨h.names, h.free, h.keys, hsound, fun o q hq => ?_, ?_⟩
      · rcases hq with hq | ⟨rfl, rfl⟩
        · exact (h.complete o q hq).imp_right (List.mem_append_left _)
        · exact .inr List.mem_concat_self
      · refine List.forall_mem_append.mpr ⟨hreports, List.forall_mem_singleton.mpr ?_⟩
        exact ⟨owner, p, .inr ⟨rfl, rfl⟩, rfl⟩

/-- The parameters of a mapping. -/
theorem Collects.addAll (h : Collects root N l) (owner : Mapping) :
    Collects root (fun o p => N o p ∨ (o = owner ∧ p ∈ owner.localParameters))
      (l.addAll root owner) := by
  unfold ParameterList.addAll
  induction owner.localParameters generalizing l N with
  | nil => exact h.congr fun o p => by simp
  | cons q ps ih =>
      refine (ih (h.step (adds_add root owner l q))).congr fun o p => ?_
      rw [List.mem_cons, and_or_left, or_assoc]

/-- **The parameters of several mappings** keep the invariant. -/
theorem Collects.foldl_addAll (h : Collects root N l) (owners : List Mapping) :
    Collects root (fun o p => N o p ∨ (o ∈ owners ∧ p ∈ o.localParameters))
      (owners.foldl (ParameterList.addAll root) l) := by
  induction owners generalizing l N with
  | nil => exact h.congr fun o p => by simp
  | cons owner owners ih =>
      refine (ih (h.addAll owner)).congr fun o p => ?_
      rw [List.mem_cons, or_and_right, or_assoc]
      refine or_congr_right (or_congr_left ?_)
      exact and_congr_right fun ho => by rw [ho]

end ParameterList

/-! ## 3. The list of a routine -/

namespace Arena

open ParameterList

variable {a : Arena} {id t : MappingId} {root k : Mapping} {p q : EntryParameter}

/-- The routine of an id needs a parameter for the mapping `owner`: it is one of the helpers of that
mapping, which the routine reaches through bound delegates. -/
def Needs (a : Arena) (id : MappingId) (owner : Mapping) (p : EntryParameter) : Prop :=
  ∃ t, a.Reaches id t ∧ a.get? t = some owner ∧ p ∈ owner.localParameters

theorem entryParameters_collects (h : a.get? id = some root) :
    Collects root (a.Needs id) (a.entryParameters id) := by
  unfold entryParameters
  rw [h]
  refine ((collects_nil root).foldl_addAll _).congr fun owner p => ?_
  simp only [false_or, List.mem_filterMap, mem_reachable_iff, ← exists_and_right, and_assoc]
  rfl

/-- A routine that needs no parameter takes none. -/
theorem entryParameters_of_not_needs (h : ∀ owner p, ¬ a.Needs id owner p) :
    a.entryParameters id = ⟨[], []⟩ := by
  unfold entryParameters
  cases hroot : a.get? id with
  | none => rfl
  | some root =>
      refine List.foldlRecOn (motive := fun l : ParameterList => l = ⟨[], []⟩) _ _ rfl
        fun l hl owner howner => ?_
      obtain ⟨t, ht, hget⟩ := List.mem_filterMap.mp howner
      have hnil : owner.localParameters = [] := List.eq_nil_iff_forall_not_mem.mpr fun p hp =>
        h owner p ⟨t, mem_reachable_iff.mp ht, hget, hp⟩
      rw [addAll, hnil, hl]
      rfl

/-- **The parameters of a routine are distinct**, by their keys and by their names. -/
theorem distinct_entryParameters (a : Arena) (id : MappingId) :
    ((a.entryParameters id).parameters.map EntryParameter.key).Nodup ∧
      ((a.entryParameters id).parameters.map EntryParameter.name).Nodup := by
  cases h : a.get? id with
  | none =>
      rw [entryParameters, h]
      exact ⟨List.nodup_nil, List.nodup_nil⟩
  | some root => exact ⟨(entryParameters_collects h).keys, (entryParameters_collects h).names⟩

/-- **A routine takes the parameters of every mapping that it reaches**, unless some collide. -/
theorem isIn_entryParameters (h : a.get? id = some root)
    (hclean : Diagnostic.hasErrors (a.entryParameters id).reports = false) (ht : a.Reaches id t)
    (hk : a.get? t = some k) (hp : p ∈ k.localParameters) :
    p.isIn (a.entryParameters id).parameters = true :=
  (entryParameters_collects h).isIn hclean ⟨t, ht, hk, hp⟩

/-- **A routine takes no other parameters.** -/
theorem exists_of_mem_entryParameters (hq : q ∈ (a.entryParameters id).parameters) :
    ∃ t k p, a.Reaches id t ∧ a.get? t = some k ∧ p ∈ k.localParameters ∧ p.key = q.key := by
  cases h : a.get? id with
  | none =>
      rw [entryParameters, h] at hq
      cases hq
  | some root =>
      obtain ⟨k, p, ⟨t, ht, hk, hp⟩, hkey⟩ := (entryParameters_collects h).exists_key hq
      exact ⟨t, k, p, ht, hk, hp, hkey⟩

/-- What a routine takes, a routine that reaches it takes too. -/
theorem isIn_entryParameters_of_reaches (h : a.get? id = some root)
    (hclean : Diagnostic.hasErrors (a.entryParameters id).reports = false) (ht : a.Reaches id t)
    (hq : q ∈ (a.entryParameters t).parameters) :
    q.isIn (a.entryParameters id).parameters = true := by
  obtain ⟨u, k, p, hu, hk, hp, hkey⟩ := exists_of_mem_entryParameters hq
  obtain ⟨r, hr, hrkey⟩ :=
    EntryParameter.isIn_iff.mp (isIn_entryParameters h hclean (ht.trans hu) hk hp)
  exact EntryParameter.isIn_iff.mpr ⟨r, hr, hrkey.trans hkey⟩

/-- A list of parameters is for the routine of `root`, which has the id. -/
structure Hoists (a : Arena) (id : MappingId) (root : Mapping) (l : ParameterList) : Prop where
  /-- No two parameters share a name. -/
  names : (l.parameters.map EntryParameter.name).Nodup
  /-- No name is one that every routine uses itself, or one of a resolver of this routine. -/
  free : ∀ q ∈ l.parameters,
    q.name ∉ reservedNames ∧ q.name ∉ root.resolvers.map ResolverInstance.ident
  /-- No two parameters are one. -/
  keys : (l.parameters.map EntryParameter.key).Nodup
  /-- Each parameter is one of a helper of a mapping that is reached. -/
  sound : ∀ q ∈ l.parameters, ∃ owner p, a.Needs id owner p ∧ p.key = q.key
  /-- Each such parameter is in the list, unless its own collision is reported. -/
  complete : ∀ owner p, a.Needs id owner p →
    p.key ∈ l.parameters.map EntryParameter.key ∨ collision root owner p ∈ l.reports
  /-- Nothing but collisions of such parameters is reported. -/
  reports : ∀ d ∈ l.reports, d.code = .parameterCollision ∧
    ∃ owner p, a.Needs id owner p ∧ d = collision root owner p

/-- **The parameters of a routine** are those that the helpers of all reached mappings need, each
once and under a name of its own, except for collisions, which are reported. -/
theorem hoists_of_get? (h : a.get? id = some root) : a.Hoists id root (a.entryParameters id) := by
  have hcollects := entryParameters_collects h
  refine ⟨hcollects.names, hcollects.free, hcollects.keys, fun q => hcollects.exists_key,
    fun owner p hp => ?_, fun d hd => ?_⟩
  · refine (hcollects.complete owner p hp).imp_left fun hin => ?_
    obtain ⟨q, hq, hkey⟩ := EntryParameter.isIn_iff.mp hin
    exact List.mem_map.mpr ⟨q, hq, hkey⟩
  · obtain ⟨owner, p, hp, rfl⟩ := hcollects.reports d hd
    exact ⟨rfl, owner, p, hp, rfl⟩

/-- The mappings of orders and of their lines, which delegate to each other, and that of notes. -/
def orderMappings : List Mapping :=
  [{ mapping "Order" [1] [text "locale", text "source", text "scale"] with
      resolvers := [⟨"rate", "shop::Rate", [], false⟩] },
    mapping "Line" [1, 0] [text "locale", number "locale", text "rate", text "line_scale",
      number "scale"],
    mapping "Note" [] [text "color"]]
where
  /-- A parameter that is a text. -/
  text (name : String) : EntryParameter := .ofLocal name (.scalar "String" false false)
  /-- A parameter that is a number. -/
  number (name : String) : EntryParameter := .ofLocal name (.scalar "u32" true false)
  /-- A property that delegates to a mapping. -/
  child (target : MappingId) : PropertyMapping :=
    ⟨[⟨"child", .object "shop::Child" false, false, none⟩],
      ⟨"child", .object "view::Child" false, false⟩,
      some (.delegate ⟨⟨"shop::Child", "view::Child"⟩, some target⟩), .scalar, false, none⟩
  /-- A mapping that delegates to others and has helpers with parameters. -/
  mapping (name : String) (targets : List MappingId) (ps : List EntryParameter) : Mapping :=
    { Mapping.declare ⟨"shop::" ++ name, "view::" ++ name⟩ none ("shop::" ++ name) with
      properties := targets.map child
      localParameters := ps }

/-- The arena of these mappings. -/
def orderArena : Arena := ofMappings orderMappings

/-- The text of the locale is taken once. The number, the source and the rate get new names; the
scale of a line gets none, as a parameter of the line has it already. -/
theorem hoists_of_order : ∃ root, orderArena.get? 0 = some root ∧
    (orderArena.entryParameters 0).parameters.map EntryParameter.name =
      ["locale", "order_source", "scale", "line_locale", "line_rate", "line_scale"] ∧
    (orderArena.entryParameters 0).reports.map Diagnostic.message =
      ["parameter 'scale' required by 'shop::Line -> view::Line' " ++
        "collides with an existing parameter"] ∧
    orderArena.Hoists 0 root (orderArena.entryParameters 0) :=
  ⟨_, rfl, by decide +kernel, by decide +kernel, hoists_of_get? rfl⟩

end Arena

end TypeMapper
