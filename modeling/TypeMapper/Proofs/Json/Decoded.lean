import TypeMapper.Proofs.Json.Undoing
import TypeMapper.Proofs.Outcome
/-!
# What decoders give

Every array and every object that a decoder enters takes one of its budget, so what it gives can be
bounded by the budget. Written again, that nests no more deeply than the text it was decoded from,
but for the parts that were left out there and are written nevertheless: those come to a height
that depends on the type alone.

* `gives_listOf`: the items of a list, by what the list leaves of the budget.
* `Preserves`: an invariant of fields; `gives_variant` and `gives_record` carry it through.
* `Keeps`: what the decoder gives is written within the budget, or within a fixed height.
-/

namespace TypeMapper.Json

variable {σ α : Type}

/-! ## 1. Lists -/

theorem gives_mismatch {P : α → Prop} (expected : String) (v : Reading) :
    Gives P (mismatch expected v) := by
  rw [mismatch]
  split <;> exact gives_error _

theorem gives_items {P : α → Prop} {d : Reading → Except DecodeError α}
    (h : ∀ v, Gives P (d v)) (vs : List Reading) :
    Gives (fun xs => ∀ x ∈ xs, P x) (Decoder.items d vs) := by
  induction vs with
  | nil => exact gives_ok nofun
  | cons v vs ih =>
      exact (h v).bind fun x hx => ih.bind fun xs hxs =>
        gives_ok (List.forall_mem_cons.mpr ⟨hx, hxs⟩)

/-- The items of a list are decoded with what the list leaves of the budget. -/
theorem gives_listOf {P : Nat → α → Prop} {d : Decoder α} (h : ∀ b v, Gives (P b) (d b v))
    (b : Nat) (v : Reading) :
    Gives (fun xs => ∃ c, b = c + 1 ∧ ∀ x ∈ xs, P c x) (Decoder.listOf d b v) := by
  unfold Decoder.listOf
  split
  · exact gives_error _
  · rename_i c vs ending
    exact (gives_items (h c) vs).bind fun xs hxs => (gives_true _).bind fun _ _ =>
      gives_ok ⟨c, rfl, hxs⟩
  · exact gives_mismatch _ _

/-! ## 2. Fields -/

section Fields

variable {P : List String → σ → Prop} {fields : List (Member σ)} {b : Nat}

/-- **Setting a field preserves an invariant**, which may speak of the fields met so far. -/
def Preserves (P : List String → σ → Prop) (b : Nat) (fields : List (Member σ)) : Prop :=
  ∀ f ∈ fields, ∀ v met s, P met s → Gives (P (f.name :: met)) (f.set b v s)

namespace Preserves

variable {name : String} {required : Bool} {d : Decoder α} {put : α → σ → σ}

theorem nil : Preserves P b [] := nofun

/-- A field of which the decoder tells something. -/
theorem field {Q : α → Prop} (hd : ∀ v, Gives Q (d b v))
    (hput : ∀ x met s, Q x → P met s → P (name :: met) (put x s)) (rest : Preserves P b fields) :
    Preserves P b (⟨name, required, fun b v s => (d b v).map (put · s)⟩ :: fields) :=
  List.forall_mem_cons.mpr
    ⟨fun v met s hs => (hd v).map fun x hx => hput x met s hx hs, rest⟩

/-- A field of which the invariant does not speak. -/
theorem aside (rest : Preserves P b fields)
    (hput : ∀ x met s, P met s → P (name :: met) (put x s) := by exact fun _ _ _ h => h) :
    Preserves P b (⟨name, required, fun b v s => (d b v).map (put · s)⟩ :: fields) :=
  field (fun _ => gives_true _) (fun x met s _ => hput x met s) rest

/-- Members set the fields one after the other. -/
theorem gives_setMembers (h : Preserves P b fields) (extra : Extra)
    (ms : List (Except Fault String × Reading)) {met : List String} {s : σ} (h0 : P met s) :
    Gives (fun r => P r.1 r.2) (setMembers fields extra b ms met s) := by
  induction ms generalizing met s with
  | nil => exact gives_ok h0
  | cons m ms ih =>
      obtain ⟨_ | k, v⟩ := m
      · exact gives_error _
      rw [setMembers.eq_def]
      dsimp only
      split
      · rename_i f hfind
        obtain rfl : f.name = k := by simpa using List.find?_some hfind
        split
        · exact gives_error _
        · exact (h f (List.mem_of_find?_eq_some hfind) v met s h0).bind fun t ht => ih ht
      · split
        · exact gives_error _
        · exact (gives_true _).bind fun _ _ => ih h0

/-- So do the items of an array that stands for a record. -/
theorem gives_setItems (h : Preserves P b fields) (expected : String) (vs : List Reading)
    (ending : Option Fault) (n : Nat) (met : List String) {s : σ} (h0 : P met s) :
    Gives (fun t => ∃ met, P met t) (setItems expected b fields vs ending n s) := by
  induction fields generalizing vs n met s with
  | nil =>
      cases vs with
      | nil =>
          cases ending with
          | none => exact gives_ok ⟨met, h0⟩
          | some e => exact gives_error _
      | cons v vs => exact gives_error _
  | cons f fields ih =>
      obtain ⟨hf, hfields⟩ := List.forall_mem_cons.mp h
      cases vs with
      | nil =>
          cases ending with
          | none =>
              rw [setItems]
              split
              · exact gives_error _
              · exact ih hfields [] (n + 1) met h0
          | some e => exact gives_error _
      | cons v vs => exact (hf v met s h0).bind fun t ht => ih hfields vs (n + 1) _ ht

end Preserves

/-- The names of the fields that must be given. -/
def requiredNames (fields : List (Member σ)) : List String :=
  (fields.filter Member.required).map Member.name

theorem gives_requireAll (met : List String) :
    Gives (fun _ => ∀ name ∈ requiredNames fields, name ∈ met) (requireAll fields met) := by
  unfold requireAll
  split
  · exact gives_error _
  · rename_i hnone
    refine gives_ok (List.forall_mem_map.mpr fun f hf => ?_)
    obtain ⟨hf, hr⟩ := List.mem_filter.mp hf
    have hno := List.find?_eq_none.mp hnone f hf
    rw [hr, Bool.true_and, Bool.not_eq_true', Bool.not_eq_false] at hno
    exact List.contains_iff_mem.mp hno

/-- **A variant has the invariant of its fields**, and all that must be given are met. -/
theorem gives_variant {blank : σ} (h : Preserves P b fields) (h0 : P [] blank)
    (members : Members) :
    Gives (fun s => ∃ met, P met s ∧ ∀ name ∈ requiredNames fields, name ∈ met)
      (variant fields b blank members) :=
  (h.gives_setMembers .skip _ h0).bind fun r hr => (gives_requireAll r.1).bind fun _ hreq =>
    gives_ok ⟨r.1, hr, hreq⟩

/-- **A record has the invariant of its fields**, with what it leaves of the budget. -/
theorem gives_record {P : Nat → σ → Prop} {blank : σ} (typeName : String) (extra : Extra)
    (h : ∀ b, Preserves (fun _ s => P b s) b fields) (h0 : ∀ b, P b blank) (b : Nat)
    (v : Reading) :
    Gives (fun s => ∃ c, b = c + 1 ∧ P c s) (Decoder.record typeName fields extra blank b v) := by
  unfold Decoder.record
  split
  · exact gives_error _
  · exact gives_error _
  · rename_i c ms ending
    exact ((h c).gives_setMembers extra ms (h0 c)).bind fun r hr => (gives_true _).bind fun _ _ =>
      (gives_true _).bind fun _ _ => gives_ok ⟨c, rfl, hr⟩
  · rename_i c vs ending
    exact ((h c).gives_setItems _ vs ending 0 [] (h0 c)).imp fun s ⟨_, hs⟩ => ⟨c, rfl, hs⟩
  · exact gives_mismatch _ _

end Fields

/-! ## 3. Nesting -/

/-- **The decoder keeps to its budget**: what it gives is written within it, or within a height
that does not depend on the text. -/
def Keeps (k : Nat) (d : Decoder α) (write : α → Json) : Prop :=
  ∀ b v, Gives (fun x => (write x).height ≤ max b k) (d b v)

section Nesting

variable {k : Nat} {d : Decoder α} {write : α → Json}

theorem Keeps.mono {l : Nat} (h : Keeps k d write) (hkl : k ≤ l) : Keeps l d write :=
  fun b v => (h b v).imp fun x hx => by omega

theorem Keeps.list (h : Keeps k d write) : Keeps (k + 1) (Decoder.listOf d) (list write) := by
  intro b v
  refine (gives_listOf h b v).imp fun xs ⟨c, hc, hxs⟩ => ?_
  exact height_list_le_iff.mpr ⟨max c k, by omega, hxs⟩

/-- **A record keeps to its budget** if an invariant of its fields bounds what is written. -/
theorem keeps_record {fields : List (Member α)} {blank : α} {members : α → List (String × Json)}
    {P : Nat → α → Prop} (typeName : String) (extra : Extra)
    (h : ∀ b, Preserves (fun _ s => P b s) b fields) (h0 : ∀ b, P b blank)
    (hP : ∀ b s, P b s → ∀ m ∈ members s, m.2.height ≤ max b k) :
    Keeps (k + 1) (Decoder.record typeName fields extra blank) fun s => .obj (members s) := by
  intro b v
  refine (gives_record typeName extra h h0 b v).imp fun s ⟨c, hc, hs⟩ => ?_
  exact height_obj_le_iff.mpr ⟨max c k, by omega, hP c s hs⟩

end Nesting

/-! ## 4. Documents -/

/-- A text is decoded if its value is and nothing follows it. -/
theorem decodeText_eq_ok_iff {d : Decoder α} {text : String} {x : α} :
    decodeText d text = .ok x ↔ d nestingLimit (Document.read text).root = .ok x ∧
      (Document.read text).trailing = false := by
  unfold decodeText
  generalize Document.read text = doc
  cases hx : d nestingLimit doc.root with
  | error e => simp [hx, bind, Except.bind]
  | ok y => cases htrailing : doc.trailing <;> simp [hx, htrailing, bind, Except.bind, throw,
      throwThe, MonadExceptOf.throw, pure, Except.pure]

end TypeMapper.Json
