/-!
# Sets of code points

A character property of the Unicode standard is a sorted list of closed ranges of code points
(`Ranges`), or, where every second code point has the property, a list of runs with a step (`Runs`).

* `Ranges.has` and `Runs.has`: membership, which stops at the first range above the code point.
* `isBlank`: the characters that count as white space.
-/

namespace TypeMapper.Text

/-! ## 1. Ranges -/

/-- Closed ranges of code points in increasing order. -/
abbrev Ranges := List (Nat × Nat)

/-- A code point is in sorted ranges when it lies in one of them. -/
def Ranges.has : Ranges → Nat → Bool
  | [], _ => false
  | (lo, hi) :: rest, n => if n < lo then false else if n ≤ hi then true else Ranges.has rest n

@[simp] theorem Ranges.has_nil (n : Nat) : Ranges.has [] n = false := rfl

/-- Membership names a range that holds the code point. -/
theorem Ranges.exists_of_has {n : Nat} :
    ∀ {rs : Ranges}, Ranges.has rs n = true → ∃ r ∈ rs, r.1 ≤ n ∧ n ≤ r.2
  | [], h => by simp at h
  | (lo, hi) :: rest, h => by
    unfold Ranges.has at h
    split at h
    · simp at h
    · split at h
      · exact ⟨(lo, hi), by simp, by omega, by assumption⟩
      · obtain ⟨r, hr, hn⟩ := Ranges.exists_of_has h
        exact ⟨r, by simp [hr], hn⟩

/-! ## 2. Runs with a step -/

/-- Every `step`-th code point from `first` to `last`. -/
structure Run where
  first : Nat
  last : Nat
  step : Nat
  deriving DecidableEq, Repr

/-- A code point lies on a run. -/
def Run.has (r : Run) (n : Nat) : Bool :=
  decide (r.first ≤ n) && decide (n ≤ r.last) && (n - r.first) % r.step == 0

/-- Runs of code points in increasing order of their first member. -/
abbrev Runs := List Run

/-- A code point is in sorted runs when it lies on one of them. -/
def Runs.has : Runs → Nat → Bool
  | [], _ => false
  | r :: rest, n => if n < r.first then false else if r.has n then true else Runs.has rest n

/-! ## 3. White space -/

/-- The code points with the property White_Space. -/
def blanks : Ranges :=
  [(0x9, 0xd), (0x20, 0x20), (0x85, 0x85), (0xa0, 0xa0), (0x1680, 0x1680), (0x2000, 0x200a),
   (0x2028, 0x2029), (0x202f, 0x202f), (0x205f, 0x205f), (0x3000, 0x3000)]

/-- The character separates words or lines. -/
def isBlank (c : Char) : Bool := blanks.has c.toNat

/-- A text of blanks only, the empty text included. -/
def isBlankText (s : String) : Bool := s.toList.all isBlank

/-- Every character that core counts as white space is blank. -/
theorem isBlank_of_isWhitespace {c : Char} (h : c.isWhitespace = true) : isBlank c = true := by
  simp only [Char.isWhitespace, Bool.or_eq_true, decide_eq_true_eq] at h
  rcases h with ((h | h) | h) | h <;> (subst h; decide)

end TypeMapper.Text
