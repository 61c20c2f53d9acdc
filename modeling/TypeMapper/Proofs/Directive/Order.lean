import TypeMapper.Proofs.Directive
/-!
# The order of directives

The entries on a property are read one after the other, those of an index last. A rename and a
conversion are remembered with their rank; what contradicts one of the same rank is reported and
stays out. So the order of the entries decides only which of two contradicting entries counts, and
what the settings come to can be said of the entries as a set.

* `Property.Asks`: an entry for the index, of one rank, asks for something. `Property.Contradicts`:
  two entries of a rank ask for different things; `Property.Wins`: what an entry asks for counts.
* `Recalls`: a part of the reading that remembers what entries ask for, as the rename and the
  conversion are remembered; `Recalls.foldl_applicable`: what it comes to.
* `Property.effective_perm`: entries in another order mean the same, unless some contradict.
-/

namespace TypeMapper

/-! ## 1. What entries ask for -/

/-- The name that a directive gives a property. -/
def Directive.newName? : Directive → Option String
  | .renameTo n => some n
  | _ => none

namespace Property

variable {α : Type} (p : Property) (index : Option UInt32)

/-- An entry for the index asks for something: one with an index or one without. -/
def Asks (asks : Directive → Option α) (indexed : Bool) (a : α) : Prop :=
  ∃ e ∈ p.directives, e.appliesTo index = true ∧ e.index.isSome = indexed ∧
    asks e.directive = some a

/-- Two entries for the index ask for different things, both with an index or both without. -/
def Contradicts (asks : Directive → Option α) : Prop :=
  ∃ indexed a b, p.Asks index asks indexed a ∧ p.Asks index asks indexed b ∧ a ≠ b

/-- What an entry with the index asks for counts, and what one without an index asks for if there is
no such entry. -/
def Wins (asks : Directive → Option α) (a : α) : Prop :=
  p.Asks index asks true a ∨ (∀ b, ¬ p.Asks index asks true b) ∧ p.Asks index asks false a

/-- Some entry for the index is the directive. -/
def carries (d : Directive) : Bool :=
  p.directives.any fun e => e.appliesTo index && e.directive == d

/-- The settings of the property report something under a code. -/
def Reports (owner : String) (code : DiagnosticCode) : Prop :=
  Diagnostic.hasCode (p.effective owner index).2 code = true

end Property

/-! ## 2. What a reading remembers -/

/-- The reading has reported something under a code. -/
def PropertyReading.Tells (r : PropertyReading) (code : DiagnosticCode) : Prop :=
  Diagnostic.hasCode r.reports code = true

/-- Nothing has been read. -/
def PropertyReading.start : PropertyReading := ⟨PropertyDirectives.none, none, none, []⟩

/-- The memory once one more thing is asked for: what contradicts the old stays out. -/
def remembered {α : Type} [DecidableEq α] (old : Option (α × Bool)) (new : α) (indexed : Bool) :
    Option (α × Bool) :=
  if (contradicts old new indexed).isSome then old else some (new, indexed)

/-- A part of the reading remembers what entries ask for, and a code tells of contradictions. -/
structure Recalls {α : Type} [DecidableEq α] (asks : Directive → Option α)
    (part : PropertyReading → Option (α × Bool)) (code : DiagnosticCode) : Prop where
  /-- At the start nothing is remembered. -/
  starts : part PropertyReading.start = none
  /-- An entry that asks for nothing leaves the part alone. -/
  keeps : ∀ place r {e}, asks e.directive = none → part (readEntry place r e) = part r ∧
    ((readEntry place r e).Tells code ↔ r.Tells code)
  /-- What an entry asks for is remembered, or reported if it contradicts. -/
  hears : ∀ place r {e a}, asks e.directive = some a →
    part (readEntry place r e) = remembered (part r) a e.index.isSome ∧
      ((readEntry place r e).Tells code ↔
        r.Tells code ∨ (contradicts (part r) a e.index.isSome).isSome)

theorem hasCode_push (ds : List Diagnostic) (code own : DiagnosticCode) (place : Location)
    (message : String) :
    Diagnostic.hasCode (ds ++ [Diagnostic.report own place message]) code = true ↔
      Diagnostic.hasCode ds code = true ∨ own = code := by
  simp [Diagnostic.hasCode, Diagnostic.report]

/-- The rename is remembered. -/
theorem recalls_rename :
    Recalls Directive.newName? PropertyReading.rename .conflictingDirective where
  starts := rfl
  keeps place r e h := by
    obtain ⟨d, index⟩ := e
    cases d
    case renameTo => cases h
    case useMapper | useMethod | useResolver =>
      unfold readEntry PropertyReading.Tells
      dsimp only [Directive.conversion?]
      split
      · exact ⟨rfl, (hasCode_push ..).trans (or_iff_left nofun)⟩
      · exact ⟨rfl, Iff.rfl⟩
    case ignoreTargetNames | mapFrom | mapPath | mapTo =>
      exact ⟨rfl, (hasCode_push ..).trans (or_iff_left nofun)⟩
    all_goals exact ⟨rfl, Iff.rfl⟩
  hears place r e a h := by
    obtain ⟨d, index⟩ := e
    cases d
    case renameTo n =>
      obtain rfl := Option.some.inj h
      unfold readEntry PropertyReading.Tells remembered
      dsimp only
      split
      · rename_i hold
        rw [hold]
        exact ⟨rfl, (hasCode_push ..).trans (or_congr_right (iff_of_true rfl rfl))⟩
      · rename_i hnone
        rw [hnone]
        exact ⟨rfl, (or_iff_left nofun).symm⟩
    all_goals cases h

/-- The conversion is remembered. -/
theorem recalls_conversion :
    Recalls Directive.conversion? PropertyReading.conversion .conflictingStrategy where
  starts := rfl
  keeps place r e h := by
    obtain ⟨d, index⟩ := e
    cases d
    case useMapper | useMethod | useResolver => cases h
    case renameTo =>
      unfold readEntry PropertyReading.Tells
      dsimp only
      split
      · exact ⟨rfl, (hasCode_push ..).trans (or_iff_left nofun)⟩
      · exact ⟨rfl, Iff.rfl⟩
    case ignoreTargetNames | mapFrom | mapPath | mapTo =>
      exact ⟨rfl, (hasCode_push ..).trans (or_iff_left nofun)⟩
    all_goals exact ⟨rfl, Iff.rfl⟩
  hears place r e a h := by
    obtain ⟨d, index⟩ := e
    cases d
    case useMapper | useMethod | useResolver =>
      obtain rfl := Option.some.inj h
      unfold readEntry PropertyReading.Tells remembered
      dsimp only [Directive.conversion?]
      split
      · rename_i hold
        rw [hold]
        exact ⟨rfl, (hasCode_push ..).trans (or_congr_right (iff_of_true rfl rfl))⟩
      · rename_i hnone
        rw [hnone]
        exact ⟨rfl, (or_iff_left nofun).symm⟩
    all_goals cases h

/-! ## 3. Entries of one rank -/

/-- The list has two different members. -/
def Differs {α : Type} (xs : List α) : Prop := ∃ a ∈ xs, ∃ b ∈ xs, a ≠ b

theorem differs_cons_iff {α : Type} {a : α} {xs : List α} :
    Differs (a :: xs) ↔ ∃ b ∈ xs, b ≠ a := by
  constructor
  · rintro ⟨b, hb, c, hc, hne⟩
    by_cases hba : b = a
    · subst hba
      exact ⟨c, (List.mem_cons.mp hc).resolve_left (Ne.symm hne), Ne.symm hne⟩
    · exact ⟨b, (List.mem_cons.mp hb).resolve_left hba, hba⟩
  · rintro ⟨b, hb, hne⟩
    exact ⟨b, List.mem_cons_of_mem a hb, a, List.mem_cons_self, hne⟩

/-- What entries ask for, in their order. -/
def demands {α : Type} (asks : Directive → Option α) (entries : List DirectiveEntry) : List α :=
  (entries.map DirectiveEntry.directive).filterMap asks

section Demands

variable {α : Type} {asks : Directive → Option α} {e : DirectiveEntry}
  {entries : List DirectiveEntry} {a : α}

theorem demands_cons_none (h : asks e.directive = none) :
    demands asks (e :: entries) = demands asks entries := List.filterMap_cons_none h

theorem demands_cons_some (h : asks e.directive = some a) :
    demands asks (e :: entries) = a :: demands asks entries := List.filterMap_cons_some h

theorem mem_demands_iff : a ∈ demands asks entries ↔ ∃ e ∈ entries, asks e.directive = some a := by
  simp [demands]

end Demands

/-- The entries for an index, of one rank. -/
def ofRank (entries : List DirectiveEntry) (index : Option UInt32) (indexed : Bool) :
    List DirectiveEntry :=
  (entries.filter fun e => e.appliesTo index).filter fun e => e.index.isSome == indexed

theorem isSome_of_mem_ofRank (entries : List DirectiveEntry) (index : Option UInt32)
    (indexed : Bool) : ∀ e ∈ ofRank entries index indexed, e.index.isSome = indexed :=
  fun _ he => beq_iff_eq.mp (List.mem_filter.mp he).2

/-- The ranks are read one after the other. -/
theorem applicable_eq (entries : List DirectiveEntry) (index : Option UInt32) :
    applicable entries index = ofRank entries index false ++ ofRank entries index true := by
  unfold applicable ofRank
  refine congrArg₂ (· ++ ·) ?_ ?_ <;> refine List.filter_congr fun e _ => ?_
  · cases e.index <;> rfl
  · cases e.index <;> rfl

namespace Recalls

variable {α : Type} [DecidableEq α] {asks : Directive → Option α}
  {part : PropertyReading → Option (α × Bool)} {code : DiagnosticCode} {place : Location}
  {entries : List DirectiveEntry} {indexed : Bool} {r : PropertyReading}

/-- What was asked for first in a rank stays, and each different demand of the rank is reported. -/
theorem foldl_of_some (h : Recalls asks part code) {a : α} (hr : part r = some (a, indexed))
    (hrank : ∀ e ∈ entries, e.index.isSome = indexed) :
    part (entries.foldl (readEntry place) r) = some (a, indexed) ∧
      ((entries.foldl (readEntry place) r).Tells code ↔
        r.Tells code ∨ ∃ b ∈ demands asks entries, b ≠ a) := by
  induction entries generalizing r with
  | nil => exact ⟨hr, by simp [demands]⟩
  | cons e rest ih =>
      obtain ⟨he, hrest⟩ := List.forall_mem_cons.mp hrank
      rw [List.foldl_cons]
      cases hasks : asks e.directive with
      | none =>
          obtain ⟨hpart, htells⟩ := h.keeps place r hasks
          obtain ⟨hend, hreports⟩ := ih (hpart.trans hr) hrest
          rw [demands_cons_none hasks]
          exact ⟨hend, hreports.trans (or_congr_left htells)⟩
      | some b =>
          obtain ⟨hpart, htells⟩ := h.hears place r hasks
          have hold : contradicts (part r) b e.index.isSome = if a ≠ b then some a else none := by
            rw [hr, he, contradicts]
            simp only [true_and]
          have hsame : remembered (part r) b e.index.isSome = some (a, indexed) := by
            rw [remembered, hold, hr, he]
            by_cases hab : a = b <;> simp [hab]
          obtain ⟨hend, hreports⟩ := ih (hpart.trans hsame) hrest
          refine ⟨hend, hreports.trans ?_⟩
          rw [demands_cons_some hasks, htells, hold, List.exists_mem_cons_iff, or_assoc]
          refine or_congr_right (or_congr_left ?_)
          by_cases hab : a = b <;> simp [hab, eq_comm]

/-- A new rank starts afresh: what is asked for first in it is remembered, and something is reported
if different things are asked for. -/
theorem foldl_of_fresh (h : Recalls asks part code) (place : Location)
    (hr : ∀ x ∈ part r, x.2 ≠ indexed) (hrank : ∀ e ∈ entries, e.index.isSome = indexed) :
    part (entries.foldl (readEntry place) r) =
        ((demands asks entries).head?.map fun a => (a, indexed)).or (part r) ∧
      ((entries.foldl (readEntry place) r).Tells code ↔
        r.Tells code ∨ Differs (demands asks entries)) := by
  induction entries generalizing r with
  | nil => exact ⟨rfl, by simp [Differs, demands]⟩
  | cons e rest ih =>
      obtain ⟨he, hrest⟩ := List.forall_mem_cons.mp hrank
      rw [List.foldl_cons]
      cases hasks : asks e.directive with
      | none =>
          obtain ⟨hpart, htells⟩ := h.keeps place r hasks
          obtain ⟨hend, hreports⟩ := ih (r := readEntry place r e) (hpart ▸ hr) hrest
          rw [demands_cons_none hasks]
          exact ⟨hend.trans (by rw [hpart]), hreports.trans (or_congr_left htells)⟩
      | some a =>
          obtain ⟨hpart, htells⟩ := h.hears place r hasks
          have hnone : contradicts (part r) a e.index.isSome = none := by
            unfold contradicts
            split
            · rename_i x rank hx
              exact if_neg fun hc => hr (x, rank) hx (hc.1.trans he)
            · rfl
          have hnew : remembered (part r) a e.index.isSome = some (a, indexed) := by
            rw [remembered, hnone, he]
            rfl
          obtain ⟨hend, hreports⟩ := h.foldl_of_some (hpart.trans hnew) hrest
          rw [demands_cons_some hasks]
          refine ⟨hend, hreports.trans ?_⟩
          rw [htells, hnone, differs_cons_iff]
          simp

/-- **What is remembered in the end**: the first demand with the index, or else the first one
without an index; something is reported if demands of one rank differ. -/
theorem foldl_applicable (h : Recalls asks part code) (place : Location)
    (entries : List DirectiveEntry) (index : Option UInt32) :
    (part ((applicable entries index).foldl (readEntry place) .start)).map Prod.fst =
        (demands asks (ofRank entries index true)).head?.or
          (demands asks (ofRank entries index false)).head? ∧
      (((applicable entries index).foldl (readEntry place) .start).Tells code ↔
        ∃ indexed, Differs (demands asks (ofRank entries index indexed))) := by
  have hquiet : ¬ PropertyReading.start.Tells code := nofun
  obtain ⟨hplain, htold⟩ := h.foldl_of_fresh place (by rw [h.starts]; nofun)
    (isSome_of_mem_ofRank entries index false)
  rw [h.starts, Option.or_none] at hplain
  have hrank : ∀ x ∈ part ((ofRank entries index false).foldl (readEntry place) .start),
      x.2 ≠ true := by
    rw [hplain]
    intro x hx
    obtain ⟨a, -, rfl⟩ := Option.map_eq_some_iff.mp hx
    exact Bool.false_ne_true
  obtain ⟨hown, htolds⟩ := h.foldl_of_fresh place hrank
    (isSome_of_mem_ofRank entries index true)
  rw [applicable_eq, List.foldl_append]
  refine ⟨?_, ?_⟩
  · rw [hown, hplain, Option.map_or, Option.map_map, Option.map_map]
    exact congrArg₂ Option.or (Option.map_id' ..) (Option.map_id' ..)
  · rw [htolds, htold, or_iff_right hquiet, Bool.exists_bool]

end Recalls

/-! ## 4. Settings -/

/-- What the entries do to the settings of a reading. -/
theorem foldl_settings (place : Location) (entries : List DirectiveEntry) (r : PropertyReading) :
    ∃ depth, (entries.foldl (readEntry place) r).settings = { r.settings with
      ignore := r.settings.ignore || entries.any fun e => e.directive == .ignore
      completeCollection := r.settings.completeCollection ||
        entries.any fun e => e.directive == .mapCompleteCollection
      ignoreNull := r.settings.ignoreNull ||
        entries.any fun e => e.directive == .ignoreNullIncompatibility
      maxRecursionDepth := depth } := by
  induction entries generalizing r with
  | nil => exact ⟨r.settings.maxRecursionDepth, by simp⟩
  | cons e rest ih =>
      obtain ⟨_, hread⟩ := readEntry_settings place r e
      obtain ⟨depth, hrest⟩ := ih (readEntry place r e)
      refine ⟨depth, hrest.trans ?_⟩
      rw [hread]
      simp only [List.any_cons, Bool.or_assoc]

namespace Property

variable {α : Type} {asks : Directive → Option α} {p : Property} {index : Option UInt32}

/-- The first demand with the index, or else the first one without an index. -/
def first (p : Property) (index : Option UInt32) (asks : Directive → Option α) : Option α :=
  (demands asks (ofRank p.directives index true)).head?.or
    (demands asks (ofRank p.directives index false)).head?

theorem any_applicable (p : Property) (index : Option UInt32) (d : Directive) :
    ((applicable p.directives index).any fun e => e.directive == d) = p.carries index d := by
  rw [Bool.eq_iff_iff, List.any_eq_true, carries, List.any_eq_true]
  simp only [mem_applicable, Bool.and_eq_true, and_assoc]

/-- **The settings of a property**, but for the depth, in terms of its entries. -/
theorem effective_eq (p : Property) (owner : String) (index : Option UInt32) :
    ∃ depth, (p.effective owner index).1 =
      { ignore := p.isIgnored index
        rename := if p.isIgnored index then none else p.first index Directive.newName?
        conversion := if p.isIgnored index then none else p.first index Directive.conversion?
        completeCollection := p.carries index .mapCompleteCollection
        ignoreNull := p.carries index .ignoreNullIncompatibility
        maxRecursionDepth := depth } := by
  let place := Location.ofProperty owner p.name
  let r := (applicable p.directives index).foldl (readEntry place) .start
  obtain ⟨depth, hsettings⟩ := foldl_settings place (applicable p.directives index) .start
  simp only [any_applicable] at hsettings
  have hrename : r.rename.map Prod.fst = p.first index Directive.newName? :=
    (recalls_rename.foldl_applicable place p.directives index).1
  have hconversion : r.conversion.map Prod.fst = p.first index Directive.conversion? :=
    (recalls_conversion.foldl_applicable place p.directives index).1
  refine ⟨depth, ?_⟩
  show (if r.settings.ignore then r.settings else { r.settings with
    rename := r.rename.map Prod.fst, conversion := r.conversion.map Prod.fst }) = _
  rw [hrename, hconversion, show r.settings = _ from hsettings]
  have hignore : (PropertyReading.start.settings.ignore || p.carries index .ignore) =
      p.isIgnored index := rfl
  rw [hignore]
  cases p.isIgnored index <;> rfl

/-! ## 5. Entries in another order -/

theorem asks_iff {indexed : Bool} {a : α} : p.Asks index asks indexed a ↔
    a ∈ demands asks (ofRank p.directives index indexed) := by
  simp only [Asks, mem_demands_iff, ofRank, List.mem_filter, beq_iff_eq, and_assoc]

theorem asks_of_first {a : α} (h : p.first index asks = some a) :
    ∃ indexed, p.Asks index asks indexed a := by
  rcases Option.or_eq_some_iff.mp h with h | ⟨-, h⟩ <;>
    exact ⟨_, asks_iff.mpr (List.mem_of_head? h)⟩

theorem contradicts_iff : p.Contradicts index asks ↔
    ∃ indexed, Differs (demands asks (ofRank p.directives index indexed)) := by
  simp only [Contradicts, Differs, asks_iff, exists_and_left]

/-- Two entries of one rank that contradict each other are reported, and nothing else is reported
under their code. -/
theorem reports_iff [DecidableEq α] {part : PropertyReading → Option (α × Bool)}
    {code : DiagnosticCode} (h : Recalls asks part code) (p : Property) (index : Option UInt32)
    (owner : String) : p.Reports index owner code ↔ p.Contradicts index asks :=
  (h.foldl_applicable (Location.ofProperty owner p.name) p.directives index).2.trans
    contradicts_iff.symm

/-- In a list whose members are all the same, the first one is any of them. -/
theorem head?_eq_some_iff_mem {xs : List α} (h : ¬ Differs xs) {a : α} :
    xs.head? = some a ↔ a ∈ xs := by
  cases xs with
  | nil => simp
  | cons x rest =>
      rw [List.head?_cons, Option.some.injEq]
      constructor
      · rintro rfl
        exact List.mem_cons_self
      · intro ha
        refine Classical.byContradiction fun hne => h ⟨x, List.mem_cons_self, a, ha, hne⟩

/-- Without contradictions the first demand is the one that wins. -/
theorem first_eq_some_iff (h : ¬ p.Contradicts index asks) {a : α} :
    p.first index asks = some a ↔ p.Wins index asks a := by
  have hsame (indexed : Bool) : ¬ Differs (demands asks (ofRank p.directives index indexed)) :=
    fun hd => h (contradicts_iff.mpr ⟨indexed, hd⟩)
  rw [first, Option.or_eq_some_iff, head?_eq_some_iff_mem (hsame true),
    head?_eq_some_iff_mem (hsame false), List.head?_eq_none_iff, List.eq_nil_iff_forall_not_mem]
  simp only [Wins, asks_iff]

section Perm

variable {q : Property} (h : q.directives.Perm p.directives)

include h

theorem asks_perm {indexed : Bool} {a : α} :
    q.Asks index asks indexed a ↔ p.Asks index asks indexed a := by
  simp only [Asks, h.mem_iff]

theorem contradicts_perm : q.Contradicts index asks ↔ p.Contradicts index asks := by
  simp only [Contradicts, asks_perm h]

theorem first_perm (hsame : ¬ p.Contradicts index asks) :
    q.first index asks = p.first index asks := by
  refine Option.ext fun a => ?_
  rw [first_eq_some_iff hsame, first_eq_some_iff (mt (contradicts_perm h).mp hsame)]
  simp only [Wins, asks_perm h]

theorem carries_perm (d : Directive) : q.carries index d = p.carries index d :=
  h.any_eq

end Perm

/-- **Entries in another order mean the same.** Two entries that contradict each other are reported
in any order, and these only. If there are none, the order makes no difference but for the depth: a
rename or a conversion with the index counts before one without an index, and an ignored property
has neither. -/
theorem effective_perm (p : Property) (owner : String) (index : Option UInt32)
    {entries : List DirectiveEntry} (h : entries.Perm p.directives) :
    let q := { p with directives := entries }
    (q.Reports index owner .conflictingDirective ↔ p.Reports index owner .conflictingDirective) ∧
    (p.Reports index owner .conflictingDirective ↔ p.Contradicts index Directive.newName?) ∧
    (q.Reports index owner .conflictingStrategy ↔ p.Reports index owner .conflictingStrategy) ∧
    (p.Reports index owner .conflictingStrategy ↔ p.Contradicts index Directive.conversion?) ∧
    (¬ p.Reports index owner .conflictingDirective → ¬ p.Reports index owner .conflictingStrategy →
      (∃ depth, (q.effective owner index).1 =
        { (p.effective owner index).1 with maxRecursionDepth := depth }) ∧
      (∀ n, (p.effective owner index).1.rename = some n ↔
        p.isIgnored index = false ∧ p.Wins index Directive.newName? n) ∧
      (∀ c, (p.effective owner index).1.conversion = some c ↔
        p.isIgnored index = false ∧ p.Wins index Directive.conversion? c)) := by
  intro q
  have hq : q.directives.Perm p.directives := h
  have hrename (p : Property) := reports_iff recalls_rename p index owner
  have hconversion (p : Property) := reports_iff recalls_conversion p index owner
  refine ⟨?_, hrename p, ?_, hconversion p, fun hnames hconversions => ?_⟩
  · exact (hrename q).trans ((contradicts_perm hq).trans (hrename p).symm)
  · exact (hconversion q).trans ((contradicts_perm hq).trans (hconversion p).symm)
  rw [hrename] at hnames
  rw [hconversion] at hconversions
  obtain ⟨_, hp⟩ := p.effective_eq owner index
  obtain ⟨depth, hqs⟩ := q.effective_eq owner index
  have hignored : q.isIgnored index = p.isIgnored index := carries_perm hq .ignore
  refine ⟨⟨depth, ?_⟩, fun n => ?_, fun c => ?_⟩
  · rw [hqs, hp, hignored, first_perm hq hnames, first_perm hq hconversions, carries_perm hq,
      carries_perm hq]
  · rw [hp, ← first_eq_some_iff hnames]
    cases p.isIgnored index <;> simp
  · rw [hp, ← first_eq_some_iff hconversions]
    cases p.isIgnored index <;> simp

/-- A heading with directives of both ranks, one that belongs on a type, and two depths. -/
def heading : Property :=
  ⟨"heading", .scalar "String" false false, false, ⟨true, true⟩,
    [⟨.renameTo "title", none⟩, ⟨.useMethod "trim", some 1⟩, ⟨.mapTo "view::Post", none⟩,
      ⟨.renameTo "label", some 1⟩, ⟨.useResolver "text::Clean", none⟩, ⟨.maxRecursionDepth 2, none⟩,
      ⟨.renameTo "caption", some 2⟩, ⟨.maxRecursionDepth 5, none⟩]⟩

theorem effective_perm_of_heading :
    heading.directives.reverse.Perm heading.directives ∧
    ¬ heading.Reports (some 1) "blog::Post" .conflictingDirective ∧
    ¬ heading.Reports (some 1) "blog::Post" .conflictingStrategy ∧
    (∃ depth,
      ({ heading with directives := heading.directives.reverse }.effective "blog::Post" (some 1)).1 =
        { (heading.effective "blog::Post" (some 1)).1 with maxRecursionDepth := depth }) ∧
    (heading.effective "blog::Post" (some 1)).1.rename = some "label" ∧
    (heading.effective "blog::Post" (some 1)).1.conversion = some (.method "trim") := by
  have hperm := List.reverse_perm heading.directives
  have hnames : ¬ heading.Reports (some 1) "blog::Post" .conflictingDirective := by
    unfold Reports
    decide
  have hconversions : ¬ heading.Reports (some 1) "blog::Post" .conflictingStrategy := by
    unfold Reports
    decide
  obtain ⟨hsame, hrename, hconversion⟩ :=
    (effective_perm heading "blog::Post" (some 1) hperm).2.2.2.2 hnames hconversions
  refine ⟨hperm, hnames, hconversions, hsame, (hrename _).mpr ⟨rfl, .inl ?_⟩,
    (hconversion _).mpr ⟨rfl, .inl ?_⟩⟩
  · exact ⟨⟨.renameTo "label", some 1⟩, by decide, rfl, rfl, rfl⟩
  · exact ⟨⟨.useMethod "trim", some 1⟩, by decide, rfl, rfl, rfl⟩

end Property

end TypeMapper
