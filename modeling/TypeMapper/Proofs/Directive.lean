import Mathlib.Data.List.Dedup
import TypeMapper.Matching
/-!
# What directives leave out, and which paths they ask for

Entries are read one after the other into settings. What the settings say in the end about ignored
properties, ignored names and paths can be said without the order: some entry for the index says so.

* `foldl_iff`: what reading says in the end.
* `Property.isIgnored`, `TypeDecl.ignoresName`, `TypeDecl.paths`: what the entries say.
* `Property.effective_ignore`, `TypeDecl.mem_ignoredTargets_iff`, `TypeDecl.mem_paths_iff`: the
  settings say the same.
* `Schema.leavesOut`: a destination property that a mapping leaves out.
* `Schema.paths`: the path directives of a mapping; `Schema.paths_perm`.
-/

namespace TypeMapper

/-! ## 1. Entries -/

/-- The destination names that a directive on a type ignores. -/
def Directive.ignoredNames : Directive → List String
  | .ignoreTargetNames names => names
  | _ => []

/-- The path that a directive on a type asks for. -/
def Directive.path? : Directive → Option PathDirective
  | .mapPath path target => some ⟨path, target⟩
  | _ => none

/-- Some entry for the index takes a property out of matching. -/
def Property.isIgnored (p : Property) (index : Option UInt32) : Bool :=
  p.directives.any fun e => e.appliesTo index && e.directive == .ignore

/-- Some entry of a type for the index ignores a destination name. -/
def TypeDecl.ignoresName (t : TypeDecl) (index : Option UInt32) (name : String) : Bool :=
  t.directives.any fun e => e.appliesTo index && e.directive.ignoredNames.contains name

/-- The paths that the entries of a type for the index ask for. -/
def TypeDecl.paths (t : TypeDecl) (index : Option UInt32) : List PathDirective :=
  (t.directives.filter fun e => e.appliesTo index).filterMap fun e => e.directive.path?

/-- The mapping of a key and an index leaves out a destination property: it is ignored itself, or
one of both types ignores its name. -/
def Schema.leavesOut (s : Schema) (key : MappingKey) (index : Option UInt32) (p : Property) :
    Bool :=
  p.isIgnored index || [key.source, key.destination].any fun path =>
    (s.type? path).any fun t => t.ignoresName index p.name

/-- The path directives of a mapping: those of both types, each once. -/
def Schema.paths (s : Schema) (key : MappingKey) (index : Option UInt32) : List PathDirective :=
  ([key.source, key.destination].flatMap fun path =>
    (s.type? path).elim [] fun t => t.paths index).dedup

/-- Which entries count for an index; that those without one come first does not matter here. -/
theorem mem_applicable {entries : List DirectiveEntry} {index : Option UInt32}
    {e : DirectiveEntry} :
    e ∈ applicable entries index ↔ e ∈ entries ∧ e.appliesTo index = true := by
  simp only [applicable, List.mem_append, List.mem_filter, ← and_or_left]
  cases e.index <;> simp

/-- **What one entry adds, entries add in any order**: in the end something holds because it held
from the start or because some entry says so. -/
theorem foldl_iff {σ ε : Type} (P : σ → Prop) (Q : ε → Prop) (read : σ → ε → σ)
    (h : ∀ r e, P (read r e) ↔ P r ∨ Q e) (entries : List ε) (r : σ) :
    P (entries.foldl read r) ↔ P r ∨ ∃ e ∈ entries, Q e := by
  induction entries generalizing r with
  | nil => simp
  | cons e rest ih => rw [List.foldl_cons, ih, h, or_assoc, List.exists_mem_cons_iff]

/-! ## 2. Properties -/

/-- What one entry does to the settings: nothing to the rename and the conversion, which are
remembered apart. -/
theorem readEntry_settings (place : Location) (r : PropertyReading) (e : DirectiveEntry) :
    ∃ depth, (readEntry place r e).settings = { r.settings with
      ignore := r.settings.ignore || e.directive == .ignore
      completeCollection := r.settings.completeCollection || e.directive == .mapCompleteCollection
      ignoreNull := r.settings.ignoreNull || e.directive == .ignoreNullIncompatibility
      maxRecursionDepth := depth } := by
  obtain ⟨settings, rename, conversion, reports⟩ := r
  obtain ⟨ignore, name, asked, complete, null, depth⟩ := settings
  obtain ⟨d, index⟩ := e
  cases d
  case ignore | ignoreNullIncompatibility | mapCompleteCollection =>
    exact ⟨depth, by simp [readEntry]⟩
  case maxRecursionDepth new => exact ⟨some new, by simp [readEntry]⟩
  case renameTo | useMapper | useMethod | useResolver =>
    refine ⟨depth, ?_⟩
    unfold readEntry
    dsimp only [Directive.conversion?]
    split <;> simp
  all_goals exact ⟨depth, by simp [readEntry, Directive.conversion?]⟩

theorem readEntry_ignore (place : Location) (r : PropertyReading) (e : DirectiveEntry) :
    (readEntry place r e).settings.ignore = (r.settings.ignore || e.directive == .ignore) := by
  obtain ⟨depth, h⟩ := readEntry_settings place r e
  rw [h]

/-- **A property is ignored** exactly if some entry says so. -/
theorem Property.effective_ignore (p : Property) (owner : String) (index : Option UInt32) :
    (p.effective owner index).1.ignore = p.isIgnored index := by
  have hfold := foldl_iff (fun r => r.settings.ignore = true) (fun e => e.directive = .ignore)
    (readEntry (Location.ofProperty owner p.name))
    (fun r e => by rw [readEntry_ignore, Bool.or_eq_true, beq_iff_eq])
    (applicable p.directives index) ⟨PropertyDirectives.none, none, none, []⟩
  rw [Bool.eq_iff_iff, isIgnored, List.any_eq_true]
  refine Iff.trans ?_ (hfold.trans ((or_iff_right Bool.false_ne_true).trans ?_))
  · unfold effective
    dsimp only
    split <;> exact Iff.rfl
  · simp only [mem_applicable, Bool.and_eq_true, beq_iff_eq, and_assoc]

/-! ## 3. Types -/

namespace TypeDirectives

variable {d e : TypeDirectives} {n : String} {names : List String} {p q : PathDirective}

theorem mem_ignoring_iff :
    n ∈ (d.ignoring names).ignoredTargets ↔ n ∈ d.ignoredTargets ∨ n ∈ names := by
  have hfold := foldl_iff (n ∈ ·) (n = ·) (fun acc x => Text.insert x acc)
    (fun acc x => by rw [Text.mem_insert, or_comm]) names d.ignoredTargets
  exact hfold.trans (or_congr_right exists_eq_right')

theorem ignoredTargets_withPath (d : TypeDirectives) (p : PathDirective) :
    (d.withPath p).ignoredTargets = d.ignoredTargets := by
  unfold withPath
  split <;> rfl

theorem mem_merge_iff :
    n ∈ (d.merge e).ignoredTargets ↔ n ∈ d.ignoredTargets ∨ n ∈ e.ignoredTargets := by
  have hpaths : ∀ (ps : List PathDirective) (d : TypeDirectives),
      (ps.foldl withPath d).ignoredTargets = d.ignoredTargets := fun ps => by
    induction ps with
    | nil => exact fun _ => rfl
    | cons p rest ih => exact fun d => (ih _).trans (ignoredTargets_withPath d p)
  show n ∈ (e.paths.foldl withPath (d.ignoring e.ignoredTargets)).ignoredTargets ↔ _
  rw [hpaths, mem_ignoring_iff]

theorem mem_withPath_iff : q ∈ (d.withPath p).paths ↔ q ∈ d.paths ∨ q = p := by
  unfold withPath
  split
  · rename_i hp
    exact (or_iff_left_of_imp fun h => h ▸ List.contains_iff_mem.mp hp).symm
  · exact List.mem_append.trans (or_congr_right List.mem_singleton)

theorem mem_paths_merge_iff : q ∈ (d.merge e).paths ↔ q ∈ d.paths ∨ q ∈ e.paths := by
  have hfold := foldl_iff (fun d => q ∈ d.paths) (q = ·) withPath (fun _ _ => mem_withPath_iff)
    e.paths (d.ignoring e.ignoredTargets)
  exact hfold.trans (or_congr_right exists_eq_right')

/-- No path is asked for twice. -/
theorem nodup_withPath (h : d.paths.Nodup) : (d.withPath p).paths.Nodup := by
  unfold withPath
  split
  · exact h
  · rename_i hp
    exact List.nodup_append_comm.mp (List.nodup_cons.mpr ⟨mt List.contains_iff_mem.mpr hp, h⟩)

theorem nodup_merge (h : d.paths.Nodup) : (d.merge e).paths.Nodup :=
  List.foldlRecOn (motive := fun d : TypeDirectives => d.paths.Nodup) e.paths withPath h
    fun _ hd _ _ => nodup_withPath hd

end TypeDirectives

theorem mem_readTypeEntry_iff {place : Location} {r : TypeDirectives × List Diagnostic}
    {e : DirectiveEntry} {n : String} : n ∈ (readTypeEntry place r e).1.ignoredTargets ↔
      n ∈ r.1.ignoredTargets ∨ n ∈ e.directive.ignoredNames := by
  obtain ⟨d, index⟩ := e
  cases d
  case ignoreTargetNames => exact TypeDirectives.mem_ignoring_iff
  case mapPath path target =>
    show n ∈ (r.1.withPath ⟨path, target⟩).ignoredTargets ↔ _
    rw [TypeDirectives.ignoredTargets_withPath]
    exact (or_iff_left List.not_mem_nil).symm
  all_goals exact (or_iff_left List.not_mem_nil).symm

/-- **A name is ignored** exactly if some entry of the type says so. -/
theorem TypeDecl.mem_ignoredTargets_iff {t : TypeDecl} {index : Option UInt32} {n : String} :
    n ∈ (t.effective index).1.ignoredTargets ↔ t.ignoresName index n = true := by
  have hfold := foldl_iff (fun r => n ∈ r.1.ignoredTargets) (fun e => n ∈ e.directive.ignoredNames)
    (readTypeEntry (Location.ofType t.path)) (fun _ _ => mem_readTypeEntry_iff)
    (applicable t.directives index) (TypeDirectives.none, [])
  refine hfold.trans ((or_iff_right List.not_mem_nil).trans ?_)
  rw [ignoresName, List.any_eq_true]
  simp only [mem_applicable, Bool.and_eq_true, List.contains_iff_mem, and_assoc]

theorem mem_paths_readTypeEntry_iff {place : Location} {r : TypeDirectives × List Diagnostic}
    {e : DirectiveEntry} {q : PathDirective} : q ∈ (readTypeEntry place r e).1.paths ↔
      q ∈ r.1.paths ∨ e.directive.path? = some q := by
  obtain ⟨d, index⟩ := e
  cases d
  case mapPath path target =>
    refine TypeDirectives.mem_withPath_iff.trans (or_congr_right ?_)
    rw [Directive.path?, Option.some.injEq, eq_comm]
  all_goals exact (or_iff_left nofun).symm

/-- **A path is asked for** exactly if some entry of the type says so. -/
theorem TypeDecl.mem_paths_iff {t : TypeDecl} {index : Option UInt32} {q : PathDirective} :
    q ∈ (t.effective index).1.paths ↔ q ∈ t.paths index := by
  have hfold := foldl_iff (fun r => q ∈ r.1.paths) (fun e => e.directive.path? = some q)
    (readTypeEntry (Location.ofType t.path)) (fun _ _ => mem_paths_readTypeEntry_iff)
    (applicable t.directives index) (TypeDirectives.none, [])
  refine hfold.trans ((or_iff_right List.not_mem_nil).trans ?_)
  simp only [paths, mem_applicable, List.mem_filterMap, List.mem_filter]

/-! ## 4. Both types -/

/-- The names that the directives of both types ignore. -/
theorem Schema.mem_ignoredTargets_iff {s : Schema} {key : MappingKey} {index : Option UInt32}
    {n : String} : n ∈ (Sides.ofSchema s key index).typeDirectives.ignoredTargets ↔
      ([key.source, key.destination].any fun path =>
        (s.type? path).any fun t => t.ignoresName index n) = true := by
  have hpath : ∀ path, n ∈ (s.typeDirectives path index).1.ignoredTargets ↔
      ((s.type? path).any fun t => t.ignoresName index n) = true := fun path => by
    unfold typeDirectives
    cases s.type? path with
    | none => simp [TypeDirectives.none]
    | some t => exact TypeDecl.mem_ignoredTargets_iff
  show n ∈ ((TypeDirectives.none.merge _).merge _).ignoredTargets ↔ _
  rw [TypeDirectives.mem_merge_iff, TypeDirectives.mem_merge_iff, hpath, hpath]
  simp [TypeDirectives.none]

/-- **The paths of a mapping** are those that the directives of both types ask for, each once. -/
theorem Schema.paths_perm (s : Schema) (key : MappingKey) (index : Option UInt32) :
    (Sides.ofSchema s key index).typeDirectives.paths.Perm (s.paths key index) := by
  have hnodup : (Sides.ofSchema s key index).typeDirectives.paths.Nodup :=
    TypeDirectives.nodup_merge (TypeDirectives.nodup_merge List.nodup_nil)
  have hpath : ∀ path q, q ∈ (s.typeDirectives path index).1.paths ↔
      q ∈ (s.type? path).elim [] fun t => t.paths index := fun path q => by
    unfold typeDirectives
    cases s.type? path with
    | none => exact Iff.rfl
    | some t => exact TypeDecl.mem_paths_iff
  refine (List.perm_ext_iff_of_nodup hnodup (List.nodup_dedup _)).mpr fun q => ?_
  show q ∈ ((TypeDirectives.none.merge _).merge _).paths ↔ _
  rw [TypeDirectives.mem_paths_merge_iff, TypeDirectives.mem_paths_merge_iff, hpath, hpath]
  simp [TypeDirectives.none]

end TypeMapper
