import TypeMapper.Proofs.Batch.Coverage
import TypeMapper.Proofs.Batch.Functions
/-!
# What the literal of a routine names

The routine of a mapping makes its destination by a literal with a field for every property of the
mapping. The mapping has a property for each destination property that can be set and that no
directive leaves out, and the literal is closed: the default does not fill what it does not name. So
a property that is left out is missing, unless it is spelled like one that is not.

* `Value.names`, `Value.covers`: a literal names a property, and it is whole for some of them.
* `Emitter.primary_fields`: the fields of a routine are spelled like the properties of its mapping.
* `Batch.names_of_isValid`: the destination properties that an accepted mapping fills.
* `Batch.literal_covers_iff`: when the literal of a module is whole.
-/

namespace TypeMapper

/-! ## 1. Literals -/

namespace Value

/-- The names of the fields of a literal. -/
def fieldNames : Value → List String
  | construct _ fields _ => fields.map Prod.fst
  | _ => []

/-- The default fills the fields that a literal does not name. -/
def isOpen : Value → Bool
  | construct _ _ o => o
  | _ => false

/-- A field of the literal is spelled like the property. -/
def names (v : Value) (q : Property) : Bool :=
  (Code.name? q.name).any fun n => v.fieldNames.contains n

/-- The literal is whole for these properties: it names each of them, or the default fills the
others. -/
def covers (v : Value) (qs : List Property) : Bool := v.isOpen || qs.all v.names

theorem names_iff {v : Value} {q : Property} :
    v.names q = true ↔ ∃ n ∈ v.fieldNames, Code.name? q.name = some n := by
  rw [names, Option.any_eq_true]
  constructor
  · rintro ⟨n, hn, hmem⟩
    exact ⟨n, List.contains_iff_mem.mp hmem, hn⟩
  · rintro ⟨n, hmem, hn⟩
    exact ⟨n, hn, List.contains_iff_mem.mpr hmem⟩

/-- A closed literal with fields for some of the properties is whole exactly if each of the others
is spelled like one of these. -/
theorem covers_iff {v : Value} {qs : List Property} {out : Property → Bool}
    (hclosed : v.isOpen = false)
    (hfields : List.Forall₂ (fun q n => Code.name? q.name = some n)
      (qs.filter fun q => !out q) v.fieldNames) :
    v.covers qs = true ↔ ∀ q ∈ qs, out q = true → ∃ q' ∈ qs, out q' = false ∧
      ∃ n, Code.name? q.name = some n ∧ Code.name? q'.name = some n := by
  have hkept : ∀ {q}, q ∈ (qs.filter fun q => !out q) ↔ q ∈ qs ∧ out q = false := by
    intro q
    rw [List.mem_filter, Bool.not_eq_true']
  rw [covers, hclosed, Bool.false_or, List.all_eq_true]
  constructor
  · intro h q hq _
    obtain ⟨n, hmem, hn⟩ := names_iff.mp (h q hq)
    obtain ⟨q', hq', hn'⟩ := exists_of_mem_right hfields hmem
    obtain ⟨hmem', hout⟩ := hkept.mp hq'
    exact ⟨q', hmem', hout, n, hn, hn'⟩
  · intro h q hq
    refine names_iff.mpr ?_
    by_cases hout : out q = true
    · obtain ⟨q', hq', hout', n, hn, hn'⟩ := h q hq hout
      obtain ⟨n', hmem, hsome⟩ := exists_of_mem_left hfields (hkept.mpr ⟨hq', hout'⟩)
      have heq : n' = n := Option.some.inj (hsome.symm.trans hn')
      exact ⟨n, heq ▸ hmem, hn⟩
    · have hin : out q = false := Bool.eq_false_of_not_eq_true hout
      exact exists_of_mem_left hfields (hkept.mpr ⟨hq, hin⟩)

end Value

/-! ## 2. Routines -/

/-- The routine in the module that an artifact holds. -/
def ArtifactBody.primary? : ArtifactBody → Option PrimaryRoutine
  | module k => some k.primary
  | _ => none

/-- What is read off the routines in artifacts is read off that of a module. -/
theorem exists_of_mem_primaries {β : Type} {f : PrimaryRoutine → β} {xs : List Artifact} {i : β}
    (h : i ∈ xs.filterMap fun x => x.body.primary?.map f) :
    ∃ x ∈ xs, ∃ k, x.body = .module k ∧ f k.primary = i := by
  obtain ⟨x, hx, hi⟩ := List.mem_filterMap.mp h
  obtain ⟨r, hr, rfl⟩ := Option.map_eq_some_iff.mp hi
  unfold ArtifactBody.primary? at hr
  split at hr
  · rename_i k hk
    obtain rfl := Option.some.inj hr
    exact ⟨x, hx, k, hk, rfl⟩
  · cases hr

/-- **The fields of a routine** are spelled like the properties of its mapping, in their order. -/
theorem Emitter.primary_fields {e : Emitter} :
    Gives (fun r => List.Forall₂ (fun p f => Code.name? p.destination.name = some f.1)
      e.mapping.properties r.fields) e.primary := by
  have hfield : ∀ p ∈ e.mapping.properties,
      Gives (fun f => Code.name? p.destination.name = some f.1) (e.field p) := by
    intro p _
    unfold field spelledName
    refine (gives_ofOption _ _).bind fun name hname => ?_
    exact (gives_true _).bind fun _ _ => gives_ok hname
  exact primary_parts.imp fun _ hr => gives_mapM hfield _ hr.fields

namespace Batch

variable {s : Schema} {c : Config} {id : MappingId} {m : Mapping}

/-- The destination properties that an accepted mapping fills: those that can be set and are not
left out. -/
theorem names_of_isValid (h : (discover s c).arena.get? id = some m) (hv : m.isValid = true) :
    m.properties.map (fun p => p.destination.name) =
      ((s.settable m.destination).filter fun q => !s.leavesOut m.key m.index q).map
        Property.name := by
  obtain ⟨n, l, hpassed⟩ := passed_of_isValid h hv
  have hnames : Diagnostic.hasErrors (n.withParameters l).nameReports = false := by
    have hchecks := hpassed.noFindings
    simp only [Mapping.check, Diagnostic.hasErrors_append, Bool.or_eq_false_iff] at hchecks
    exact hchecks.1.1
  obtain ⟨b, g, flag, hb, rfl⟩ := Schema.get?_resolved hpassed.resolved
  have hcomplete := (Schema.builtMapping_of_get? hb).complete hpassed.isValid
    (Mapping.leftovers_eq_nil hnames)
  have hbound : m.properties.map (fun p => p.destination.name) =
      b.properties.map fun p => p.destination.name := by
    rw [hpassed.properties_eq]
    exact List.map_map
  obtain ⟨ds, rfl⟩ := hpassed.eq
  exact hbound.trans hcomplete.1

/-- The literal of the module of an accepted mapping names what the mapping fills. -/
theorem literal_fields {k : MappingModule} (h : (discover s c).arena.get? id = some m)
    (hv : m.isValid = true)
    (hk : (Emitter.ofArena (discover s c).arena c
      (RoutineNames.ofArena (discover s c).arena) id m).module = .ok k) :
    List.Forall₂ (fun q n => Code.name? q.name = some n)
      ((s.settable m.destination).filter fun q => !s.leavesOut m.key m.index q)
      k.primary.literal.fieldNames := by
  have hfields : List.Forall₂ (fun p f => Code.name? p.destination.name = some f.1) m.properties
      k.primary.fields := Emitter.primary_fields _ (Emitter.module_primary k hk)
  have hspelled : List.Forall₂ (fun t n => Code.name? t = some n)
      (m.properties.map fun p => p.destination.name) (k.primary.fields.map Prod.fst) := by
    rw [List.forall₂_map_left_iff, List.forall₂_map_right_iff]
    exact hfields
  rw [names_of_isValid h hv, List.forall₂_map_left_iff] at hspelled
  exact hspelled

/-- **When the literal of a routine is whole.** A module that comes out is that of an accepted
mapping. The literal of its routine is closed and names the destination properties that can be set
and that no directive leaves out, in their order. So it names all that can be set exactly if each
one that is left out is spelled like one that is not. -/
theorem literal_covers_iff {xs : List Artifact} (h : (discover s c).artifacts c = .ok xs)
    {x : Artifact} (hx : x ∈ xs) {k : MappingModule} (hk : x.body = .module k) :
    ∃ p ∈ (discover s c).accepted,
      (Emitter.ofArena (discover s c).arena c (RoutineNames.ofArena (discover s c).arena) p.1
        p.2).module = .ok k ∧
      k.primary.literal.isOpen = false ∧
      List.Forall₂ (fun q n => Code.name? q.name = some n)
        ((s.settable p.2.destination).filter fun q => !s.leavesOut p.2.key p.2.index q)
        k.primary.literal.fieldNames ∧
      (k.primary.literal.covers (s.settable p.2.destination) = true ↔
        ∀ q ∈ s.settable p.2.destination, s.leavesOut p.2.key p.2.index q = true →
          ∃ q' ∈ s.settable p.2.destination, s.leavesOut p.2.key p.2.index q' = false ∧
            ∃ n, Code.name? q.name = some n ∧ Code.name? q'.name = some n) := by
  obtain ⟨p, hp, hmodule⟩ := exists_of_module h hx hk
  obtain ⟨hget, hv⟩ := mem_accepted_iff.mp hp
  have hfields := literal_fields hget hv hmodule
  have hclosed : k.primary.literal.isOpen = false := rfl
  exact ⟨p, hp, hmodule, hclosed, hfields, Value.covers_iff hclosed hfields⟩

/-- Nothing of an order is left out, so the literal of an order is whole. -/
theorem literal_covers_order : ∃ xs x k p, lineArtifacts "code" = .ok xs ∧ x ∈ xs ∧
    x.body = .module k ∧ k.name = "order_to_order" ∧
    p ∈ (discover (lineSchema "code") sideConfig).accepted ∧
    k.primary.literal.covers ((lineSchema "code").settable p.2.destination) = true := by
  have hreport : (lineArtifacts "code").toOption.map moduleNames =
      some ["line_to_line", "order_to_order"] := by
    decide +kernel
  have hkept : ((discover (lineSchema "code") sideConfig).accepted.all fun p =>
      ((lineSchema "code").settable p.2.destination).all fun q =>
        !(lineSchema "code").leavesOut p.2.key p.2.index q) = true := by
    decide +kernel
  obtain ⟨xs, hxs, hnames⟩ := Option.map_eq_some_iff.mp hreport
  have hxs := eq_ok_of_toOption hxs
  have hmem : "order_to_order" ∈ moduleNames xs := by
    rw [hnames]
    decide
  obtain ⟨x, hx, k, hk, hname⟩ := exists_of_mem_moduleNames hmem
  obtain ⟨p, hp, -, -, -, hcovers⟩ := literal_covers_iff hxs hx hk
  refine ⟨xs, x, k, p, hxs, hx, hk, hname, hp, hcovers.mpr fun q hq hout => ?_⟩
  have hin := List.all_eq_true.mp (List.all_eq_true.mp hkept p hp) q hq
  rw [hout] at hin
  cases hin

/-- The view of an account has four properties that can be set, and the literal for it names two of
them. Nothing fills the secret and the note, which directives leave out. -/
theorem literal_of_account_not_whole :
    (accountSchema.settable "app::View").map Property.name = ["mail", "secret", "name", "note"] ∧
    ((discover accountSchema Config.standard).artifacts Config.standard).toOption.map (fun xs =>
      xs.filterMap fun x => x.body.primary?.map fun r =>
        (r.key.text, r.literal.fieldNames, r.literal.isOpen,
          r.literal.covers (accountSchema.settable "app::View"))) =
      some [("app::Account -> app::View", ["mail", "name"], false, false)] := by
  decide +kernel

end Batch

end TypeMapper
