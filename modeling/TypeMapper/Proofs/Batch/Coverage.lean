import TypeMapper.Proofs.Batch.Phases
/-!
# Accepted mappings fill their destination

A mapping is not accepted with a part of its properties. Whatever keeps a property from being built
is an error, and so is a destination that nothing claims; what is left fills every destination
property that directives do not leave out, in their order and each once.

* `Mapping.leftovers_eq_nil`, `Mapping.properties_ne_nil`: what the checks on names find.
* `Batch.properties_of_isValid`: the properties of an accepted mapping.
-/

namespace TypeMapper

/-! ## 1. Checks on names -/

namespace Mapping

variable {m : Mapping}

/-- Every report on a name is about an error. -/
theorem nameReports_eq_nil (h : Diagnostic.hasErrors m.nameReports = false) :
    m.nameReports = [] := by
  refine Diagnostic.eq_nil_of_hasErrors h fun d hd => ?_
  rcases List.mem_append.mp hd with hd | hd
  · obtain ⟨n, -, rfl⟩ := List.mem_map.mp hd
    rfl
  · obtain ⟨n, -, rfl⟩ := List.mem_map.mp hd
    rfl

theorem leftovers_eq_nil (h : Diagnostic.hasErrors m.nameReports = false) : m.leftovers = [] :=
  List.map_eq_nil_iff.mp (List.append_eq_nil_iff.mp (nameReports_eq_nil h)).1

/-- A mapping without properties is reported, unless an error was reported before. -/
theorem properties_ne_nil (hv : m.isValid = true) (hn : Diagnostic.hasErrors m.nameReports = false)
    (he : Diagnostic.hasErrors m.emptyReports = false) : m.properties ≠ [] := by
  intro hp
  have hreport : m.emptyReports = [Diagnostic.report .noPropertyMappings
      (Location.ofType m.destination) ("mapping " ++ m.key.text ++ " maps no properties")] := by
    rw [emptyReports, hp, hv, nameReports_eq_nil hn]
    rfl
  rw [hreport] at he
  cases he

end Mapping

/-! ## 2. The properties of an accepted mapping -/

namespace Batch

variable {s : Schema} {c : Config} {id : MappingId} {m : Mapping}

/-- **An accepted mapping fills its destination**: it has a property, and its properties are for the
destination properties that can be set and are not left out, in their order and each once. -/
theorem properties_of_isValid (h : (discover s c).arena.get? id = some m) (hv : m.isValid = true) :
    m.properties ≠ [] ∧
    m.properties.map (fun p => p.destination.name) =
      ((s.settable m.destination).filter fun p => !s.leavesOut m.key m.index p).map Property.name ∧
    (m.properties.map fun p => p.destination.name).Nodup := by
  obtain ⟨n, l, hpassed⟩ := passed_of_isValid h hv
  have hchecks := hpassed.noFindings
  simp only [Mapping.check, Diagnostic.hasErrors_append, Bool.or_eq_false_iff] at hchecks
  obtain ⟨⟨hname, hempty⟩, -⟩ := hchecks
  have hvalid : (n.withParameters l).isValid = true := by
    rw [Mapping.withParameters, Mapping.isValid_report, hpassed.noReports]
    exact (Bool.and_true _).trans hpassed.isValid
  have hne : (n.withParameters l).properties ≠ [] := Mapping.properties_ne_nil hvalid hname hempty
  obtain ⟨b, g, flag, hb, rfl⟩ := Schema.get?_resolved hpassed.resolved
  obtain ⟨hnames, hnodup⟩ := (Schema.builtMapping_of_get? hb).complete hpassed.isValid
    (Mapping.leftovers_eq_nil hname)
  have hsame : m.properties.map (fun p => p.destination.name) =
      b.properties.map fun p => p.destination.name := by
    rw [hpassed.properties_eq]
    exact List.map_map
  obtain ⟨ds, rfl⟩ := hpassed.eq
  exact ⟨hne, hsame.trans hnames, hsame ▸ hnodup⟩

/-- An account with a secret that its view does not get, and a name that has another name there. -/
def accountSchema : Schema :=
  Schema.ofLists
    [⟨"app::Account", none, false, true,
        [text "login" [⟨.renameTo "name", none⟩], text "secret" [], text "mail" []],
        [⟨.mapTo "app::View", none⟩, ⟨.ignoreTargetNames ["secret"], none⟩], []⟩,
      ⟨"app::View", none, false, true,
        [text "mail" [], text "secret" [], text "name" [], text "note" [⟨.ignore, none⟩]], [], []⟩]
    []
where
  /-- A property that holds a text. -/
  text (name : String) (directives : List DirectiveEntry) : Property :=
    ⟨name, .scalar "String" false false, false, ⟨true, true⟩, directives⟩

/-- The mapping of an account fills the mail and then the name. -/
theorem properties_of_account : ∃ m,
    (discover accountSchema Config.standard).arena.get? 0 = some m ∧ m.isValid = true ∧
    m.properties ≠ [] ∧ m.properties.map (fun p => p.destination.name) = ["mail", "name"] := by
  have haccepted : ((discover accountSchema Config.standard).arena.get? 0).map
      (fun m => (m.key, m.index, m.isValid)) =
        some (⟨"app::Account", "app::View"⟩, none, true) := by
    decide +kernel
  obtain ⟨m, hm, hfields⟩ := Option.map_eq_some_iff.mp haccepted
  rw [Prod.mk.injEq, Prod.mk.injEq] at hfields
  obtain ⟨hkey, hindex, hv⟩ := hfields
  obtain ⟨hne, hnames, -⟩ := properties_of_isValid hm hv
  refine ⟨m, hm, hv, hne, hnames.trans ?_⟩
  rw [Mapping.destination, hkey, hindex]
  decide +kernel

end Batch

end TypeMapper
