import TypeMapper.Json.Decoding
/-!
# Decoders that undo writing

A decoder undoes a way of writing if it takes every written value to the value that was written, as
long as that does not nest more deeply than the budget allows. For a record this is a matter of its
fields, one by one and in their order: each is either written or left out at its initial value.

* `height_obj_le_iff`, `height_list_le_iff`: budgets of objects and lists.
* `Undoes`: the decoder takes what is written back to the value.
* `Fills`: written members fill the fields of a record, which is what `undoes_record` and
  `variant_of_fills` ask for.
* `flattened_ofJson`, `tagged_named`: an object that two types share.
-/

namespace TypeMapper.Json

/-! ## 1. Members that may be left out -/

section Members

variable {α : Type} {P : Json → Prop} {f : α → Json}

/-- What holds of a list holds of the member that is left out if the list is empty. -/
theorem forall_mem_unlessEmpty {xs : List α} (h : P (list f xs)) (name : String) :
    ∀ m ∈ unlessEmpty name f xs, P m.2 := by
  unfold unlessEmpty
  split
  · exact nofun
  · exact List.forall_mem_singleton.mpr h

/-- What holds of every value holds of the member that is left out if there is none. -/
theorem forall_mem_optional (h : ∀ x, P (f x)) (name : String) (x : Option α) :
    ∀ m ∈ optional name f x, P m.2 := by
  cases x with
  | none => exact nofun
  | some x => exact List.forall_mem_singleton.mpr (h x)

end Members

/-! ## 2. Budgets -/

theorem heightItems_le_iff {vs : List Json} {b : Nat} :
    heightItems vs ≤ b ↔ ∀ v ∈ vs, v.height ≤ b := by
  induction vs with
  | nil => simp [heightItems]
  | cons v vs ih => rw [heightItems, Nat.max_le, ih, List.forall_mem_cons]

theorem heightMembers_le_iff {ms : List (String × Json)} {b : Nat} :
    heightMembers ms ≤ b ↔ ∀ m ∈ ms, m.2.height ≤ b := by
  induction ms with
  | nil => simp [heightMembers]
  | cons m ms ih => rw [heightMembers, Nat.max_le, ih, List.forall_mem_cons]

@[simp] theorem height_bool (b : Bool) : (Json.bool b).height = 0 := rfl

@[simp] theorem height_str (s : String) : (str s).height = 0 := rfl

@[simp] theorem height_nat (n : Nat) : (nat n).height = 0 := rfl

theorem height_obj_le_succ_iff {ms : List (String × Json)} {b : Nat} :
    (obj ms).height ≤ b + 1 ↔ ∀ m ∈ ms, m.2.height ≤ b := by
  rw [height, Nat.succ_le_succ_iff, heightMembers_le_iff]

theorem height_list_le_succ_iff {α : Type} {f : α → Json} {xs : List α} {b : Nat} :
    (list f xs).height ≤ b + 1 ↔ ∀ x ∈ xs, (f x).height ≤ b := by
  rw [list, height, Nat.succ_le_succ_iff, heightItems_le_iff, List.forall_mem_map]

/-- An object takes one of the budget and leaves the rest to its members. -/
theorem height_obj_le_iff {ms : List (String × Json)} {b : Nat} :
    (obj ms).height ≤ b ↔ ∃ c, b = c + 1 ∧ ∀ m ∈ ms, m.2.height ≤ c := by
  cases b with
  | zero => simp [height]
  | succ c => simp [height_obj_le_succ_iff]

/-- So does a list. -/
theorem height_list_le_iff {α : Type} {f : α → Json} {xs : List α} {b : Nat} :
    (list f xs).height ≤ b ↔ ∃ c, b = c + 1 ∧ ∀ x ∈ xs, (f x).height ≤ c := by
  cases b with
  | zero => simp [list, height]
  | succ c => simp [height_list_le_succ_iff]

/-- Some of the items nest no more deeply than all of them. -/
theorem height_list_mono {α : Type} {f : α → Json} {xs ys : List α} (h : ∀ x ∈ xs, x ∈ ys) :
    (list f xs).height ≤ (list f ys).height := by
  obtain ⟨c, hc, hys⟩ := height_list_le_iff.mp (Nat.le_refl (list f ys).height)
  rw [hc]
  exact height_list_le_succ_iff.mpr fun x hx => hys x (h x hx)

mutual

/-- A written value has no fault within a budget for its nesting. -/
theorem readFault_ofJson : ∀ (v : Json) (b : Nat), v.height ≤ b →
    (Reading.ofJson v).readFault b = none
  | .null, _, _ => by simp [Reading.ofJson, Reading.readFault]
  | .bool _, _, _ => by simp [Reading.ofJson, Reading.readFault]
  | .int _, _, _ => by simp [Reading.ofJson, Reading.readFault, errorOf]
  | .str _, _, _ => by simp [Reading.ofJson, Reading.readFault, errorOf]
  | .arr vs, b, h => by
      rw [height] at h
      obtain ⟨b, rfl⟩ : ∃ c, b = c + 1 := ⟨b - 1, by omega⟩
      rw [Reading.ofJson, Reading.readFault, readFaultItems_ofItems vs b (by omega)]
      rfl
  | .obj ms, b, h => by
      rw [height] at h
      obtain ⟨b, rfl⟩ : ∃ c, b = c + 1 := ⟨b - 1, by omega⟩
      rw [Reading.ofJson, Reading.readFault, readFaultMembers_ofMembers ms b (by omega)]
      rfl

theorem readFaultItems_ofItems : ∀ (vs : List Json) (b : Nat), heightItems vs ≤ b →
    readFaultItems b (Reading.ofItems vs) = none
  | [], _, _ => by simp [Reading.ofItems, readFaultItems]
  | v :: vs, b, h => by
      rw [heightItems, Nat.max_le] at h
      rw [Reading.ofItems, readFaultItems, readFault_ofJson v b h.1,
        readFaultItems_ofItems vs b h.2]
      rfl

theorem readFaultMembers_ofMembers : ∀ (ms : List (String × Json)) (b : Nat),
    heightMembers ms ≤ b → readFaultMembers b (Reading.ofMembers ms) = none
  | [], _, _ => by simp [Reading.ofMembers, readFaultMembers]
  | (_, v) :: ms, b, h => by
      rw [heightMembers, Nat.max_le] at h
      rw [Reading.ofMembers, readFaultMembers, readFault_ofJson v b h.1,
        readFaultMembers_ofMembers ms b h.2]
      rfl

end

/-! ## 3. Values and lists -/

/-- **The decoder undoes a way of writing**: what is written is decoded to the value. -/
def Undoes {α : Type} (d : Decoder α) (write : α → Json) : Prop :=
  ∀ x b, (write x).height ≤ b → d b (.ofJson (write x)) = .ok x

section Lists

variable {α : Type} {d : Decoder α} {write : α → Json}

theorem undoes_text : Undoes Decoder.text .str := fun _ _ _ => rfl

theorem undoes_flag : Undoes Decoder.flag .bool := fun _ _ _ => rfl

theorem undoes_word : Undoes Decoder.word fun n => .nat n.toNat := by
  intro n b _
  have hlt : n.toNat < wordLimit := n.toNat_lt
  have hread : Reading.ofJson (.nat n.toNat) = .number (.ok (.natural n.toNat)) := by
    rw [nat, Reading.ofJson, if_neg (by omega), Int.natAbs_natCast]
  rw [hread, Decoder.word, if_pos hlt, UInt32.ofNat_toNat]

/-- The items of a list are decoded one by one, each within the budget that the list leaves. -/
theorem listOf_ofJson {xs : List α} {b : Nat} (hb : (list write xs).height ≤ b)
    (h : ∀ x ∈ xs, ∀ c, c < b → (write x).height ≤ c → d c (.ofJson (write x)) = .ok x) :
    Decoder.listOf d b (.ofJson (list write xs)) = .ok xs := by
  obtain ⟨c, rfl, hxs⟩ := height_list_le_iff.mp hb
  have hitems : Decoder.items (d c) (Reading.ofItems (xs.map write)) = .ok xs := by
    clear hb
    induction xs with
    | nil => rfl
    | cons x xs ih =>
        rw [List.forall_mem_cons] at h hxs
        rw [List.map_cons, Reading.ofItems, Decoder.items, h.1 c (Nat.lt_succ_self c) hxs.1,
          ih hxs.2 h.2]
        rfl
  rw [list, Reading.ofJson, Decoder.listOf, hitems]
  rfl

/-- A value may be absent if no value is written as null. -/
theorem Undoes.optional (h : Undoes d write) (hnull : ∀ x, Reading.ofJson (write x) ≠ .null) :
    Undoes (Decoder.optional d) (orNull write) := by
  rintro (_ | x) b hb
  · rfl
  · have hd : Decoder.optional d b (.ofJson (write x)) = (d b (.ofJson (write x))).map some :=
      Decoder.optional.eq_2 _ _ _ (hnull x)
    rw [orNull, hd, h x b hb]
    rfl

theorem Undoes.list (h : Undoes d write) : Undoes (Decoder.listOf d) (list write) :=
  fun _ _ hb => listOf_ofJson hb fun x _ c _ hc => h x c hc

end Lists

/-! ## 4. Records -/

/-- **Written members fill the fields of a record**, in the order of the fields: each is given by
the next member, or is left out if it may be. -/
inductive Fills {σ : Type} (b : Nat) : List (Member σ) → List (String × Json) → σ → σ → Prop where
  | done {s : σ} : Fills b [] [] s s
  | given {f : Member σ} {fields : List (Member σ)} {v : Json} {ms : List (String × Json)}
      {s t u : σ} : (v.height ≤ b → f.set b (.ofJson v) s = .ok t) → Fills b fields ms t u →
      Fills b (f :: fields) ((f.name, v) :: ms) s u
  | leftOut {f : Member σ} {fields : List (Member σ)} {ms : List (String × Json)} {s u : σ} :
      f.required = false → Fills b fields ms s u → Fills b (f :: fields) ms s u

namespace Fills

variable {σ α : Type} {b : Nat} {fields : List (Member σ)} {ms : List (String × Json)} {s u : σ}
  {name : String} {required : Bool} {d : Decoder α} {put : α → σ → σ} {write : α → Json}

/-- A field is given by a member that its decoder takes to the value. -/
theorem member {v : Json} {x : α} (h : v.height ≤ b → d b (.ofJson v) = .ok x)
    (rest : Fills b fields ms (put x s) u) :
    Fills b (⟨name, required, fun b v s => (d b v).map (put · s)⟩ :: fields) ((name, v) :: ms)
      s u :=
  .given (fun hb => congrArg (Except.map (put · s)) (h hb)) rest

/-- A list that is left out if it is empty. -/
theorem unlessEmpty (h : Undoes d write) {put : List α → σ → σ} {xs : List α} (h0 : put [] s = s)
    (rest : Fills b fields ms (put xs s) u) :
    Fills b (.may name (Decoder.listOf d) put :: fields) (Json.unlessEmpty name write xs ++ ms)
      s u := by
  cases xs with
  | nil => exact .leftOut rfl (h0 ▸ rest)
  | cons x xs => exact .member (h.list (x :: xs) b) rest

/-- Such a list in the last field. -/
theorem lastUnlessEmpty (h : Undoes d write) {put : List α → σ → σ} {xs : List α}
    (h0 : put [] s = s) :
    Fills b [.may name (Decoder.listOf d) put] (Json.unlessEmpty name write xs) s (put xs s) := by
  simpa using unlessEmpty h h0 done

/-- A value that is left out if it is not there. -/
theorem optional (h : Undoes (Decoder.optional d) (orNull write))
    {put : Option α → σ → σ} {x : Option α} (h0 : put none s = s)
    (rest : Fills b fields ms (put x s) u) :
    Fills b (.may name (Decoder.optional d) put :: fields) (Json.optional name write x ++ ms)
      s u := by
  cases x with
  | none => exact .leftOut rfl (h0 ▸ rest)
  | some x => exact .member (h (some x) b) rest

/-- A member of a field that was not met before sets it. -/
theorem setMembers_cons {all : List (Member σ)} {k : String} {f : Member σ} {seen : List String}
    {v : Reading} {t : σ} (hfind : all.find? (fun g => g.name == k) = some f) (hfresh : k ∉ seen)
    (hset : f.set b v s = .ok t) (extra : Extra) (rest : List (Except Fault String × Reading)) :
    Json.setMembers all extra b ((.ok k, v) :: rest) seen s =
      Json.setMembers all extra b rest (k :: seen) t := by
  have hseen : seen.contains k = false :=
    Bool.eq_false_iff.mpr fun hc => hfresh (List.contains_iff_mem.mp hc)
  rw [Json.setMembers.eq_def]
  dsimp only
  rw [hfind, hseen]
  dsimp only
  rw [hset]
  rfl

theorem name_notMem {f : Member σ} {pre : List (Member σ)}
    (hn : ((pre ++ f :: fields).map Member.name).Nodup) : f.name ∉ pre.map Member.name := by
  rw [List.map_append, List.map_cons] at hn
  exact fun hmem => (List.nodup_append.mp hn).2.2 _ hmem _ List.mem_cons_self rfl

/-- A field is found under its name, behind fields with other names. -/
theorem find?_name {f : Member σ} {pre : List (Member σ)}
    (hn : ((pre ++ f :: fields).map Member.name).Nodup) :
    (pre ++ f :: fields).find? (fun g => g.name == f.name) = some f := by
  have hnone : pre.find? (fun g => g.name == f.name) = none :=
    List.find?_eq_none.mpr fun g hg he =>
      name_notMem hn (List.mem_map.mpr ⟨g, hg, beq_iff_eq.mp he⟩)
  rw [List.find?_append, hnone, Option.none_or, List.find?_cons, beq_self_eq_true]

/-- The fields from one on are set by the members that fill them, and all that must be given are
met. -/
theorem setMembers {all : List (Member σ)} (hn : (all.map Member.name).Nodup) (extra : Extra)
    (h : Fills b fields ms s u) (hms : ∀ m ∈ ms, m.2.height ≤ b) (pre : List (Member σ))
    (hall : all = pre ++ fields) (seen : List String)
    (hseen : ∀ k ∈ seen, k ∈ pre.map Member.name) :
    ∃ met, Json.setMembers all extra b (Reading.ofMembers ms) seen s = .ok (met, u) ∧
      (∀ k ∈ seen, k ∈ met) ∧ ∀ f ∈ fields, f.required = true → f.name ∈ met := by
  induction h generalizing pre seen with
  | done => exact ⟨seen, rfl, fun _ hk => hk, nofun⟩
  | @given f fields v ms s t u hset _ ih =>
      rw [hall] at hn
      have hnew := name_notMem hn
      have hfind : all.find? (fun g => g.name == f.name) = some f := hall ▸ find?_name hn
      obtain ⟨met, hmet, hsub, hreq⟩ := ih (fun m hm => hms m (List.mem_cons_of_mem _ hm))
        (pre ++ [f]) (by rw [hall, List.append_assoc]; rfl) (f.name :: seen) fun k hk => by
          rw [List.map_append, List.mem_append]
          rcases List.mem_cons.mp hk with rfl | hk
          · exact .inr List.mem_cons_self
          · exact .inl (hseen k hk)
      refine ⟨met, ?_, fun k hk => hsub k (List.mem_cons_of_mem _ hk), fun g hg hr => ?_⟩
      · rw [Reading.ofMembers, setMembers_cons hfind (fun hk => hnew (hseen _ hk))
          (hset (hms _ List.mem_cons_self))]
        exact hmet
      · rcases List.mem_cons.mp hg with rfl | hg
        · exact hsub _ List.mem_cons_self
        · exact hreq g hg hr
  | @leftOut f fields ms s u hopt _ ih =>
      obtain ⟨met, hmet, hsub, hreq⟩ := ih hms (pre ++ [f])
        (by rw [hall, List.append_assoc]; rfl) seen
        fun k hk => by rw [List.map_append]; exact List.mem_append_left _ (hseen k hk)
      refine ⟨met, hmet, hsub, fun g hg hr => ?_⟩
      rcases List.mem_cons.mp hg with rfl | hg
      · rw [hopt] at hr
        cases hr
      · exact hreq g hg hr

theorem requireAll {met : List String} (h : ∀ f ∈ fields, f.required = true → f.name ∈ met) :
    Json.requireAll fields met = .ok () := by
  have hnone : fields.find? (fun f => f.required && !met.contains f.name) = none :=
    List.find?_eq_none.mpr fun f hf hno => by
      rw [Bool.and_eq_true, Bool.not_eq_true', Bool.eq_false_iff] at hno
      exact hno.2 (List.contains_iff_mem.mpr (h f hf hno.1))
  rw [Json.requireAll, hnone]

end Fills

section Records

variable {σ : Type} {fields : List (Member σ)} {blank : σ}

/-- **A record is undone** if its members fill its fields. -/
theorem undoes_record {members : σ → List (String × Json)} (typeName : String) (extra : Extra)
    (hn : (fields.map Member.name).Nodup) (h : ∀ x b, Fills b fields (members x) blank x) :
    Undoes (Decoder.record typeName fields extra blank) fun x => .obj (members x) := by
  intro x b hb
  obtain ⟨c, rfl, hms⟩ := height_obj_le_iff.mp hb
  obtain ⟨met, hset, -, hreq⟩ := (h x c).setMembers hn extra hms [] rfl [] nofun
  rw [Reading.ofJson, Decoder.record, hset]
  show (Json.requireAll fields met >>= fun _ => _) = _
  rw [Fills.requireAll hreq]
  rfl

/-- Members as they are kept for a type inside another. -/
def named (ms : List (String × Json)) : Members := ms.map fun m => (m.1, .ofJson m.2)

/-- **The fields of a variant are filled** by the members beside its tag. -/
theorem variant_of_fills {b : Nat} {ms : List (String × Json)} {x : σ}
    (hn : (fields.map Member.name).Nodup) (h : Fills b fields ms blank x)
    (hms : ∀ m ∈ ms, m.2.height ≤ b) : variant fields b blank (named ms) = .ok x := by
  obtain ⟨met, hset, -, hreq⟩ := h.setMembers hn .skip hms [] rfl [] nofun
  have hmembers : (named ms).map (fun m => ((.ok m.1 : Except Fault String), m.2)) =
      Reading.ofMembers ms := by
    clear hset hms h
    induction ms with
    | nil => rfl
    | cons m ms ih => exact congrArg (_ :: ·) ih
  rw [variant, hmembers, hset]
  show (Json.requireAll fields met >>= fun _ => _) = _
  rw [Fills.requireAll hreq]
  rfl

end Records

/-! ## 5. Objects that two types share -/

section Shared

variable {β : Type} {own tag : String} {d : Decoder β} {ms last : List (String × Json)}

/-- The members of the type inside are kept. -/
theorem takeOwn_append {b : Nat} (hown : ∀ m ∈ ms, m.1 ≠ own) (hms : ∀ m ∈ ms, m.2.height ≤ b)
    {mine found : Option β} {others : Members}
    (h : takeOwn own d b (Reading.ofMembers last) mine = .ok (found, others)) :
    takeOwn own d b (Reading.ofMembers (ms ++ last)) mine = .ok (found, named ms ++ others) := by
  induction ms with
  | nil => exact h
  | cons m ms ih =>
      rw [List.forall_mem_cons] at hown hms
      rw [List.cons_append, Reading.ofMembers, takeOwn, if_neg hown.1,
        readFault_ofJson m.2 b hms.1, ih hown.2 hms.2]
      rfl

/-- A member of the type itself that comes last. -/
theorem takeOwn_self {b : Nat} {v : Reading} {x : β} (h : d b v = .ok x) :
    takeOwn own d b [(.ok own, v)] none = .ok (some x, []) := by
  rw [takeOwn, if_pos rfl]
  show (d b v >>= fun x => takeOwn own d b [] (some x)) = _
  rw [h]
  rfl

/-- **The members of the type inside come first**, and behind them what is of the type itself. -/
theorem flattened_ofJson {b : Nat} {mine : Option β} (typeName : String)
    (hown : ∀ m ∈ ms, m.1 ≠ own) (hb : (obj (ms ++ last)).height ≤ b)
    (hlast : ∀ c, takeOwn own d c (Reading.ofMembers last) none = .ok (mine, [])) :
    flattened typeName own d b (.ofJson (.obj (ms ++ last))) = .ok (mine, named ms) := by
  obtain ⟨c, rfl, hms⟩ := height_obj_le_iff.mp hb
  rw [Reading.ofJson, flattened,
    takeOwn_append hown (fun m hm => hms m (List.mem_append_left _ hm)) (hlast c),
    List.append_nil]
  rfl

theorem takeTag_named (names : List String) (found : Option Nat) (htag : ∀ m ∈ ms, m.1 ≠ tag) :
    takeTag tag names (named ms) found = .ok (found, named ms) := by
  induction ms with
  | nil => rfl
  | cons m ms ih =>
      rw [List.forall_mem_cons] at htag
      have h := ih htag.2
      rw [named] at h ⊢
      rw [List.map_cons, takeTag, if_neg htag.1, h]
      rfl

/-- **A tag that comes first is taken out.** -/
theorem tagged_named {names : List String} {name : String} {i : Nat}
    (hi : indexOf? names name = some i) (htag : ∀ m ∈ ms, m.1 ≠ tag) :
    tagged tag names (named ((tag, .str name) :: ms)) = .ok (i, named ms) := by
  have hname : variantTag names (.ofJson (.str name)) = .ok i := by
    rw [Reading.ofJson, variantTag, hi]
  have htake : takeTag tag names (named ((tag, .str name) :: ms)) none =
      .ok (some i, named ms) := by
    rw [named, List.map_cons, takeTag, if_pos rfl]
    show (variantTag names (.ofJson (.str name)) >>= fun i => takeTag tag names _ (some i)) = _
    rw [hname]
    exact takeTag_named names (some i) htag
  rw [tagged, htake]
  rfl

end Shared

end TypeMapper.Json
