import TypeMapper.Json.Reading
/-!
# Written text is read back

The text of a value, read again, is the tree of that value, and what follows it is left over. That
holds for every value with numbers of 64 bits and behind every text that could not go on in a
number: it is what brackets, braces and commas are for.

* `readNumber_toDigits`: the digits of a number.
* `readQuoted_stringText`: a text in quotes, with its escapes.
* `Exact`, `Closed`: values whose numbers can be read, and texts that end a number.
* `ReadsBack`, `readsBack`: a value, by induction on its structure.
* `Document.read_text`: a whole text.
-/

namespace TypeMapper.Json

/-! ## 1. Numbers -/

/-- The text ends a number: it is empty, or goes on with what stands behind an item. -/
def Closed (cs : List Char) : Prop :=
  cs = [] ∨ ∃ c rest, cs = c :: rest ∧ (c = ',' ∨ c = ']' ∨ c = '\x7d')

theorem takeDigits_closed {cs : List Char} (h : Closed cs) : takeDigits cs = [] := by
  obtain rfl | ⟨c, rest, rfl, rfl | rfl | rfl⟩ := h <;> rfl

theorem dropDigits_closed {cs : List Char} (h : Closed cs) : dropDigits cs = cs := by
  obtain rfl | ⟨c, rest, rfl, rfl | rfl | rfl⟩ := h <;> rfl

theorem readFraction_closed {cs : List Char} (h : Closed cs) (negative : Bool)
    (whole : List Char) :
    readFraction negative whole cs = (wholeNumber negative whole, some cs) := by
  obtain rfl | ⟨c, rest, rfl, rfl | rfl | rfl⟩ := h <;> rfl

theorem takeDigits_append {ds cs : List Char} (hd : ∀ c ∈ ds, c.isDigit = true) (h : Closed cs) :
    takeDigits (ds ++ cs) = ds := by
  rw [takeDigits, List.takeWhile_append_of_pos hd]
  exact (congrArg (ds ++ ·) (takeDigits_closed h)).trans (List.append_nil ds)

theorem dropDigits_append {ds cs : List Char} (hd : ∀ c ∈ ds, c.isDigit = true) (h : Closed cs) :
    dropDigits (ds ++ cs) = cs := by
  rw [dropDigits, List.dropWhile_append_of_pos hd]
  exact dropDigits_closed h

/-- Reading digits comes to their value as long as that fits. -/
theorem readDigits_eq {ds : List Char} {n : Nat} (h : Nat.ofDigitChars 10 ds n < naturalLimit) :
    readDigits n ds = (Nat.ofDigitChars 10 ds n, 0) := by
  induction ds generalizing n with
  | nil => rfl
  | cons d ds ih =>
      have hstep : Nat.ofDigitChars 10 (d :: ds) n =
          Nat.ofDigitChars 10 ds (10 * n + digitValue d) := rfl
      have hle : ∀ (cs : List Char) (k : Nat), k ≤ Nat.ofDigitChars 10 cs k := fun cs => by
        induction cs with
        | nil => exact fun k => Nat.le_refl k
        | cons c cs ih => exact fun k => Nat.le_trans (by omega) (ih (10 * k + digitValue c))
      rw [hstep] at h ⊢
      rw [readDigits, if_pos (Nat.lt_of_le_of_lt (hle ds _) h), ih h]

/-- No zero leads the digits of a positive number. -/
theorem exists_toDigits {n : Nat} (hn : 0 < n) :
    ∃ d ds, Nat.toDigits 10 n = d :: ds ∧ d ≠ '0' := by
  induction n using Nat.strongRecOn with
  | ind n ih =>
      by_cases hlt : n < 10
      · have hdigit : ∀ k < 10, 0 < k → Nat.digitChar k ≠ '0' := by decide
        exact ⟨_, [], Nat.toDigits_of_lt_base hlt, hdigit n hlt hn⟩
      · obtain ⟨d, ds, hds, hd⟩ := ih (n / 10) (by omega) (by omega)
        refine ⟨d, ds ++ [Nat.digitChar (n % 10)], ?_, hd⟩
        rw [Nat.toDigits_of_base_le (by decide) (by omega), hds]
        rfl

/-- **The digits of a number are read back.** -/
theorem readNumber_toDigits {cs : List Char} (h : Closed cs) (negative : Bool) (n : Nat) :
    readNumber negative (Nat.toDigits 10 n ++ cs) =
      (wholeNumber negative (Nat.toDigits 10 n), some cs) := by
  have hdigits : ∀ c ∈ Nat.toDigits 10 n, c.isDigit = true := fun _ =>
    Nat.isDigit_of_mem_toDigits (by decide) (by decide)
  unfold readNumber
  split
  · rename_i rest heq
    obtain rfl | hn := Nat.eq_zero_or_pos n
    · obtain rfl : cs = rest := by simpa [Nat.toDigits_of_lt_base] using heq
      rw [takeDigits_closed h]
      exact readFraction_closed h negative ['0']
    · obtain ⟨d, ds, hds, hd⟩ := exists_toDigits hn
      rw [hds] at heq
      exact absurd (List.cons.inj heq).1 hd
  · rw [takeDigits_append hdigits h, dropDigits_append hdigits h]
    rw [if_neg (by simp)]
    exact readFraction_closed h negative _

theorem wholeNumber_natural {n : Nat} (h : n < naturalLimit) :
    wholeNumber false (Nat.toDigits 10 n) = .number (.ok (.natural n)) := by
  have hread : readDigits 0 (Nat.toDigits 10 n) = (n, 0) := by
    rw [readDigits_eq (by rwa [Nat.ofDigitChars_ten_toDigits]), Nat.ofDigitChars_ten_toDigits]
  rw [wholeNumber, hread]
  rfl

theorem wholeNumber_negative {n : Nat} (hpos : n ≠ 0) (h : n ≤ integerLimit) :
    wholeNumber true (Nat.toDigits 10 n) = .number (.ok (.negative n)) := by
  have hlimit : n < naturalLimit := Nat.lt_of_le_of_lt h (by decide)
  have hread : readDigits 0 (Nat.toDigits 10 n) = (n, 0) := by
    rw [readDigits_eq (by rwa [Nat.ofDigitChars_ten_toDigits]), Nat.ofDigitChars_ten_toDigits]
  rw [wholeNumber, hread]
  simp [hpos, Nat.not_lt.mpr h]

/-! ## 2. Texts in quotes -/

/-- The part that a character in quotes is read as: one without a short escape is given by its
code. -/
def pieceOf (c : Char) : Piece :=
  if c.toNat < 0x20 ∧ c ∉ ['\x08', '\x0c', '\n', '\r', '\t'] then .unit c.toNat else .char c

theorem readPieces_escape {e c : Char} (h : shortEscape e = some c) (hu : e ≠ 'u')
    (cs : List Char) :
    readPieces ('\\' :: e :: cs) = (.char c :: (readPieces cs).1, (readPieces cs).2) := by
  rw [readPieces]
  · rw [h]
  · exact hu

theorem hexDigit_digitChar : ∀ n < 16, hexDigit (Nat.digitChar n) = some n := by decide

theorem readPieces_unit {n : Nat} (h : n < 0x20) (cs : List Char) :
    readPieces ('\\' :: 'u' :: '0' :: '0' :: Nat.digitChar (n / 16) ::
        Nat.digitChar (n % 16) :: cs) =
      (.unit n :: (readPieces cs).1, (readPieces cs).2) := by
  have hquad : hexQuad '0' '0' (Nat.digitChar (n / 16)) (Nat.digitChar (n % 16)) = some n := by
    have hzero : hexDigit '0' = some 0 := rfl
    simp only [hexQuad, hzero, hexDigit_digitChar (n / 16) (by omega),
      hexDigit_digitChar (n % 16) (by omega), Option.bind_eq_bind, Option.bind_some,
      Option.pure_def]
    congr 1
    omega
  rw [readPieces]
  simp only [hquad]

theorem readPieces_plain {c : Char} (hq : c ≠ '"') (hb : c ≠ '\\') (h : ¬ c.toNat < 0x20)
    (cs : List Char) :
    readPieces (c :: cs) = (.char c :: (readPieces cs).1, (readPieces cs).2) := by
  rw [readPieces]
  · rw [if_neg h]
  all_goals grind

/-- **A character in quotes is read as its part.** -/
theorem readPieces_charText (c : Char) (cs : List Char) :
    readPieces (charText c ++ cs) = (pieceOf c :: (readPieces cs).1, (readPieces cs).2) := by
  unfold charText
  -- seven characters have short escapes
  iterate 7
    split
    · rename_i h
      subst h
      exact readPieces_escape rfl (by decide) cs
  split
  · rename_i hq hb h1 h2 h3 h4 h5 hc
    rw [pieceOf, if_pos ⟨hc, by simp [h1, h2, h3, h4, h5]⟩]
    exact readPieces_unit hc cs
  · rename_i hq hb h1 h2 h3 h4 h5 hc
    rw [pieceOf, if_neg fun h => hc h.1]
    exact readPieces_plain hq hb hc cs

theorem readPieces_stringText (cs rest : List Char) :
    readPieces (cs.flatMap charText ++ '"' :: rest) = (cs.map pieceOf, .ok rest) := by
  induction cs with
  | nil => rfl
  | cons c cs ih => rw [List.flatMap_cons, List.append_assoc, readPieces_charText, ih]; rfl

/-- The parts stand for the characters; no code of a part is that of half a pair. -/
theorem joinPieces_map_pieceOf (cs : List Char) :
    joinPieces none (cs.map pieceOf) = .ok cs := by
  induction cs with
  | nil => rfl
  | cons c cs ih =>
      rw [List.map_cons, pieceOf]
      split
      · rename_i hc
        have hlow : isLowUnit c.toNat = false := by simp [isLowUnit]; omega
        have hhigh : isHighUnit c.toNat = false := by simp [isHighUnit]; omega
        rw [joinPieces.eq_def]
        dsimp only
        rw [hlow, hhigh, ih]
        exact congrArg (fun d => Except.ok (d :: cs)) (Char.ofNat_toNat c)
      · rw [joinPieces, ih]
        rfl

/-- **A text in quotes is read back.** -/
theorem readQuoted_stringText (s : String) (rest : List Char) :
    readQuoted (s.toList.flatMap charText ++ '"' :: rest) = (.ok s, .ok rest) := by
  rw [readQuoted, readPieces_stringText]
  dsimp only
  rw [joinPieces_map_pieceOf]
  exact congrArg (fun t => (Except.ok t, Except.ok rest)) (String.ofList_toList)

/-! ## 3. Values -/

mutual

/-- The numbers of a value are of 64 bits. -/
def Exact : Json → Prop
  | .int n => -integerLimit ≤ n ∧ n < naturalLimit
  | .arr items => ExactItems items
  | .obj members => ExactMembers members
  | _ => True

/-- Those of items are. -/
def ExactItems : List Json → Prop
  | [] => True
  | v :: rest => Exact v ∧ ExactItems rest

/-- Those of members are. -/
def ExactMembers : List (String × Json) → Prop
  | [] => True
  | (_, v) :: rest => Exact v ∧ ExactMembers rest

end

@[simp] theorem exact_bool (b : Bool) : Exact (.bool b) := trivial

@[simp] theorem exact_str (s : String) : Exact (.str s) := trivial

theorem exact_arr_iff {vs : List Json} : Exact (.arr vs) ↔ ∀ v ∈ vs, Exact v := by
  rw [Exact]
  induction vs with
  | nil => simp [ExactItems]
  | cons v vs ih => rw [ExactItems, ih, List.forall_mem_cons]

theorem exact_obj_iff {ms : List (String × Json)} : Exact (.obj ms) ↔ ∀ m ∈ ms, Exact m.2 := by
  rw [Exact]
  induction ms with
  | nil => simp [ExactMembers]
  | cons m ms ih => rw [ExactMembers, ih, List.forall_mem_cons]

theorem exact_list {α : Type} {f : α → Json} (h : ∀ x, Exact (f x)) (xs : List α) :
    Exact (list f xs) :=
  exact_arr_iff.mpr (List.forall_mem_map.mpr fun x _ => h x)

theorem exact_word (n : UInt32) : Exact (.nat n.toNat) := by
  have hlt := n.toNat_lt
  rw [nat, Exact, integerLimit, naturalLimit]
  omega

theorem closed_itemTail (vs : List Json) (rest : List Char) : Closed (itemTail vs ++ rest) := by
  cases vs with
  | nil => exact .inr ⟨_, _, rfl, .inr (.inl rfl)⟩
  | cons v vs => exact .inr ⟨_, _, rfl, .inl rfl⟩

theorem closed_memberTail (ms : List (String × Json)) (rest : List Char) :
    Closed (memberTail ms ++ rest) := by
  cases ms with
  | nil => exact .inr ⟨_, _, rfl, .inr (.inr rfl)⟩
  | cons m ms => exact .inr ⟨_, _, rfl, .inl rfl⟩

theorem exists_digit (n : Nat) : ∃ d ds, Nat.toDigits 10 n = d :: ds ∧ d.isDigit = true := by
  cases hds : Nat.toDigits 10 n with
  | nil => exact absurd hds Nat.toDigits_ne_nil
  | cons d ds =>
      have hmem : d ∈ Nat.toDigits 10 n := hds ▸ List.mem_cons_self
      exact ⟨d, ds, rfl, Nat.isDigit_of_mem_toDigits (by decide) (by decide) hmem⟩

/-- The text of a number begins with a digit or with a sign. -/
theorem exists_intText (n : Int) :
    ∃ c cs, intText n = c :: cs ∧ (c.isDigit = true ∨ c = '-') := by
  unfold intText
  split
  · exact ⟨_, _, rfl, .inr rfl⟩
  · obtain ⟨d, ds, hds, hd⟩ := exists_digit n.natAbs
    exact ⟨d, ds, hds, .inl hd⟩

theorem isGap_of_isDigit {c : Char} (h : c.isDigit = true) : isGap c = false := by
  refine Bool.eq_false_iff.mpr fun hgap => ?_
  simp only [isGap, Bool.or_eq_true, beq_iff_eq] at hgap
  rcases hgap with ((rfl | rfl) | rfl) | rfl <;> cases h

/-- The text of a value begins with no blank and with no closing bracket. -/
theorem exists_chars (v : Json) :
    ∃ c cs, v.chars = c :: cs ∧ isGap c = false ∧ c ≠ ']' := by
  cases v with
  | int n =>
      obtain ⟨c, cs, hcs, hc⟩ := exists_intText n
      refine ⟨c, cs, by rw [chars, hcs], ?_⟩
      rcases hc with hc | rfl
      · refine ⟨isGap_of_isDigit hc, fun h => ?_⟩
        subst h
        cases hc
      · exact ⟨rfl, by decide⟩
  | bool b => cases b <;> exact ⟨_, _, rfl, rfl, by decide⟩
  | _ => exact ⟨_, _, rfl, rfl, by decide⟩

theorem skipGaps_cons {c : Char} (h : isGap c = false) (cs : List Char) :
    skipGaps (c :: cs) = c :: cs := by
  rw [skipGaps, List.dropWhile_cons_of_neg (by rw [h]; decide)]

theorem readValue_digit {c : Char} (h : c.isDigit = true) (fuel : Nat) (cs : List Char) :
    readValue (fuel + 1) (c :: cs) = readNumber false (c :: cs) := by
  rw [readValue, skipGaps_cons (isGap_of_isDigit h)]
  -- every other case begins with a character that is no digit
  split <;> simp_all +decide

/-- A number is read back. -/
theorem readValue_intText {n : Int} (hv : Exact (.int n)) {fuel : Nat} (hf : 0 < fuel)
    {rest : List Char} (hr : Closed rest) :
    readValue fuel (intText n ++ rest) = (.ofJson (.int n), some rest) := by
  obtain ⟨fuel, rfl⟩ := Nat.exists_eq_add_one.mpr hf
  obtain ⟨hlow, hhigh⟩ := hv
  rw [Reading.ofJson, intText]
  split
  · rename_i hneg
    show readNumber true (Nat.toDigits 10 n.natAbs ++ rest) = _
    rw [readNumber_toDigits hr, wholeNumber_negative (by omega) (by omega)]
  · obtain ⟨c, cs, hcs, hc⟩ := exists_digit n.natAbs
    rw [hcs, List.cons_append, readValue_digit hc, ← List.cons_append, ← hcs,
      readNumber_toDigits hr, wholeNumber_natural (by omega)]

/-- An array with an item goes on with that item. -/
theorem readValue_open {c : Char} (h : isGap c = false) (hc : c ≠ ']') (fuel : Nat)
    (cs : List Char) : readValue (fuel + 1) ('[' :: c :: cs) =
      (.array (readItems fuel (c :: cs)).1 (readItems fuel (c :: cs)).2.1,
        (readItems fuel (c :: cs)).2.2) := by
  rw [readValue, skipGaps_cons rfl]
  split
  case h_7 rest heq =>
    obtain rfl := (List.cons.inj heq).2
    rw [skipGaps_cons h]
    split
    · rename_i heq
      exact absurd (List.cons.inj heq).1 hc
    · rename_i heq
      cases heq
    · rfl
  -- every other case begins with another character
  all_goals grind

theorem readValue_quoted (s : String) (fuel : Nat) (rest : List Char) :
    readValue (fuel + 1) (stringText s ++ rest) = (.string (.ok s), some rest) := by
  have htext : stringText s ++ rest = '"' :: (s.toList.flatMap charText ++ '"' :: rest) := by
    rw [stringText, List.append_assoc]
    rfl
  rw [htext, readValue, skipGaps_cons rfl]
  split
  case h_6 more heq =>
    obtain rfl := (List.cons.inj heq).2
    rw [readQuoted_stringText]
  all_goals grind

/-- An object with a member goes on with that member. -/
theorem readValue_brace (k : String) (fuel : Nat) (cs : List Char) :
    readValue (fuel + 1) ('\x7b' :: (stringText k ++ cs)) =
      (.object (readMembers fuel (stringText k ++ cs)).1
          (readMembers fuel (stringText k ++ cs)).2.1,
        (readMembers fuel (stringText k ++ cs)).2.2) := rfl

/-- What follows an item decides how the items go on. -/
theorem readItems_succ {fuel : Nat} {cs rest : List Char} {r : Reading}
    (h : readValue fuel cs = (r, some rest)) :
    readItems (fuel + 1) cs = match skipGaps rest with
      | ',' :: more => (r :: (readItems fuel more).1, (readItems fuel more).2)
      | ']' :: more => ([r], none, some more)
      | [] => ([r], some .truncated, none)
      | _ => ([r], some .malformed, none) := by
  rewrite [readItems, h]
  rfl

/-- A name and a value are read before what follows them. -/
theorem readMembers_succ {fuel : Nat} {k : String} {cs rest : List Char} {r : Reading}
    (h : readValue fuel cs = (r, some rest)) :
    readMembers (fuel + 1) (stringText k ++ ':' :: cs) = match skipGaps rest with
      | ',' :: more => ((.ok k, r) :: (readMembers fuel more).1, (readMembers fuel more).2)
      | '\x7d' :: more => ([(.ok k, r)], none, some more)
      | [] => ([(.ok k, r)], some .truncated, none)
      | _ => ([(.ok k, r)], some .malformed, none) := by
  have hstart : skipGaps (stringText k ++ ':' :: cs) =
      '"' :: (k.toList.flatMap charText ++ '"' :: ':' :: cs) := by
    rw [stringText, List.append_assoc]
    exact skipGaps_cons rfl _
  have hcolon : skipGaps (':' :: cs) = ':' :: cs := skipGaps_cons rfl cs
  rw [readMembers, hstart]
  split
  · rename_i heq
    cases heq
  · rename_i heq
    obtain rfl := (List.cons.inj heq).2
    rw [readQuoted_stringText]
    dsimp only
    rw [hcolon]
    split
    · rename_i heq
      cases heq
    · rename_i heq
      obtain rfl := (List.cons.inj heq).2
      rewrite [h]
      rfl
    · rename_i hno
      exact absurd rfl (hno cs)
  · rename_i hno
    exact absurd rfl (hno _)

/-- **The text of a value is read back**, with as many steps as twice its characters, and what
follows it is left over. -/
def ReadsBack (v : Json) : Prop :=
  ∀ fuel : Nat, 2 * v.chars.length ≤ fuel + 1 → ∀ rest : List Char, Closed rest →
    readValue (fuel + 1) (v.chars ++ rest) = (.ofJson v, some rest)

/-- Items that are read back one by one are read back in a row. -/
theorem readItems_chars {v : Json} {vs : List Json} (hv : ReadsBack v)
    (hvs : ∀ w ∈ vs, ReadsBack w) (fuel : Nat)
    (hf : 2 * (v.chars ++ itemTail vs).length ≤ fuel) (rest : List Char) :
    readItems fuel (v.chars ++ itemTail vs ++ rest) =
      (Reading.ofItems (v :: vs), none, some rest) := by
  induction vs generalizing v fuel with
  | nil =>
      rw [List.length_append, itemTail, List.length_singleton] at hf
      obtain ⟨fuel, rfl⟩ : ∃ k, fuel = k + 2 := ⟨fuel - 2, by omega⟩
      have hread := hv fuel (by omega) _ (closed_itemTail [] rest)
      rw [List.append_assoc, readItems_succ hread]
      rfl
  | cons w ws ih =>
      rw [List.length_append, itemTail, List.length_cons] at hf
      obtain ⟨fuel, rfl⟩ : ∃ k, fuel = k + 2 := ⟨fuel - 2, by omega⟩
      have hread := hv fuel (by omega) _ (closed_itemTail (w :: ws) rest)
      have hmore := ih (hvs w List.mem_cons_self)
        (fun x hx => hvs x (List.mem_cons_of_mem w hx)) (fuel + 1) (by omega)
      rw [List.append_assoc, readItems_succ hread]
      show (Reading.ofJson v :: (readItems (fuel + 1) (w.chars ++ itemTail ws ++ rest)).1,
        (readItems (fuel + 1) (w.chars ++ itemTail ws ++ rest)).2) = _
      rw [hmore]
      rfl

/-- Members whose values are read back one by one are read back in a row. -/
theorem readMembers_chars {k : String} {v : Json} {ms : List (String × Json)} (hv : ReadsBack v)
    (hms : ∀ m ∈ ms, ReadsBack m.2) (fuel : Nat)
    (hf : 2 * (stringText k ++ ':' :: (v.chars ++ memberTail ms)).length ≤ fuel)
    (rest : List Char) :
    readMembers fuel (stringText k ++ ':' :: (v.chars ++ memberTail ms) ++ rest) =
      (Reading.ofMembers ((k, v) :: ms), none, some rest) := by
  induction ms generalizing k v fuel with
  | nil =>
      rw [List.length_append, List.length_cons, List.length_append] at hf
      obtain ⟨fuel, rfl⟩ : ∃ n, fuel = n + 2 := ⟨fuel - 2, by omega⟩
      have hread := hv fuel (by omega) _ (closed_memberTail [] rest)
      rw [List.append_assoc, List.cons_append, List.append_assoc, readMembers_succ hread]
      rfl
  | cons m ms ih =>
      obtain ⟨l, w⟩ := m
      rw [List.length_append, List.length_cons, List.length_append, memberTail,
        List.length_cons] at hf
      obtain ⟨fuel, rfl⟩ : ∃ n, fuel = n + 2 := ⟨fuel - 2, by omega⟩
      have hread := hv fuel (by omega) _ (closed_memberTail ((l, w) :: ms) rest)
      have hmore := ih (k := l) (v := w) (hms _ List.mem_cons_self)
        (fun x hx => hms x (List.mem_cons_of_mem _ hx)) (fuel + 1) (by omega)
      rw [List.append_assoc, List.cons_append, List.append_assoc, readMembers_succ hread]
      show ((.ok k, Reading.ofJson v) :: (readMembers (fuel + 1)
          (stringText l ++ ':' :: (w.chars ++ memberTail ms) ++ rest)).1,
        (readMembers (fuel + 1)
          (stringText l ++ ':' :: (w.chars ++ memberTail ms) ++ rest)).2) = _
      rw [hmore]
      rfl

theorem readsBack_arr {v : Json} {vs : List Json} (hv : ReadsBack v)
    (hvs : ∀ w ∈ vs, ReadsBack w) : ReadsBack (.arr (v :: vs)) := by
  intro fuel hf rest _
  rw [chars, itemChars, List.length_cons] at hf
  have hread := readItems_chars hv hvs fuel (by omega) rest
  obtain ⟨c, cs, hcs, hgap, hc⟩ := exists_chars v
  rw [hcs, List.cons_append, List.cons_append] at hread
  rw [chars, itemChars, hcs, List.cons_append, List.cons_append, List.cons_append,
    readValue_open hgap hc, hread]
  rfl

theorem readsBack_obj {k : String} {v : Json} {ms : List (String × Json)} (hv : ReadsBack v)
    (hms : ∀ m ∈ ms, ReadsBack m.2) : ReadsBack (.obj ((k, v) :: ms)) := by
  intro fuel hf rest _
  rw [chars, memberChars, List.length_cons] at hf
  have hread := readMembers_chars (k := k) hv hms fuel (by omega) rest
  rw [List.append_assoc] at hread
  rw [chars, memberChars, List.cons_append, List.append_assoc, readValue_brace, hread]
  rfl

mutual

/-- Every value with numbers of 64 bits is read back. -/
theorem readsBack : ∀ v : Json, Exact v → ReadsBack v
  | .null, _ => fun _ _ _ _ => rfl
  | .bool true, _ => fun _ _ _ _ => rfl
  | .bool false, _ => fun _ _ _ _ => rfl
  | .int _, hv => fun fuel _ _ hr => readValue_intText hv fuel.succ_pos hr
  | .str s, _ => fun fuel _ rest _ => readValue_quoted s fuel rest
  | .arr [], _ => fun _ _ _ _ => rfl
  | .arr (v :: vs), h => readsBack_arr (readsBack v h.1) (readsBackItems vs h.2)
  | .obj [], _ => fun _ _ _ _ => rfl
  | .obj ((_, v) :: ms), h => readsBack_obj (readsBack v h.1) (readsBackMembers ms h.2)

theorem readsBackItems : ∀ vs : List Json, ExactItems vs → ∀ v ∈ vs, ReadsBack v
  | [], _ => fun _ hv => absurd hv List.not_mem_nil
  | v :: vs, h => List.forall_mem_cons.mpr ⟨readsBack v h.1, readsBackItems vs h.2⟩

theorem readsBackMembers : ∀ ms : List (String × Json), ExactMembers ms → ∀ m ∈ ms, ReadsBack m.2
  | [], _ => fun _ hm => absurd hm List.not_mem_nil
  | (_, v) :: ms, h => List.forall_mem_cons.mpr ⟨readsBack v h.1, readsBackMembers ms h.2⟩

end

/-! ## 4. Documents -/

/-- **The text of a value is a document of its own.** -/
theorem Document.read_text {v : Json} (hv : Exact v) :
    Document.read v.text = ⟨.ofJson v, false⟩ := by
  have hread := readsBack v hv (2 * v.chars.length + 1) (by omega) [] (.inl rfl)
  rw [List.append_nil] at hread
  rw [Document.read, Json.text]
  simp only [String.toList_ofList, hread]
  rfl

end TypeMapper.Json
