/-!
# Decimal numerals and binary fractions

A numeral with a point or an exponent stands for a binary fraction of 53 digits. The fraction is
found step by step: the digits of the numeral are rounded to one, and the power of ten is then
multiplied or divided into it, rounding once more. Such a fraction is written with the fewest decimal
digits to which it is nearest.

* `Fraction.nearest`: the fraction nearest to a quotient; `Fraction.times`, `Fraction.quotient`.
* `Decimal.value`: the fraction that a numeral stands for, if it is in range.
* `Decimal.shortest`: the fewest digits, the nearest of those.
* `Decimal.text`: the written form, positional between 10⁻⁵ and 10¹⁶ and with an exponent elsewhere.
-/

namespace TypeMapper

/-- A decimal numeral: `digits · 10 ^ exponent`, with its sign. -/
structure Decimal where
  negative : Bool
  digits : Nat
  exponent : Int
  deriving DecidableEq, Repr, Inhabited

/-- A binary fraction `digits · 2 ^ exponent`, of at most 53 binary digits. -/
structure Fraction where
  digits : Nat
  exponent : Int
  deriving DecidableEq, Repr, Inhabited

namespace Decimal

/-! ## 1. Quotients -/

/-- `n · 10 ^ e` as a quotient of natural numbers. -/
def ratioTen (n : Nat) (e : Int) : Nat × Nat :=
  if e < 0 then (n, Nat.pow 10 e.natAbs) else (n * Nat.pow 10 e.natAbs, 1)

/-- `n · 2 ^ e` as a quotient of natural numbers. -/
def ratioTwo (n : Nat) (e : Int) : Nat × Nat :=
  if e < 0 then (n, Nat.pow 2 e.natAbs) else (n * Nat.pow 2 e.natAbs, 1)

/-- The integer nearest to a quotient, the even one of two. -/
def roundEven (num den : Nat) : Nat :=
  let q := num / den
  let r := num % den
  if 2 * r < den then q else if den < 2 * r then q + 1 else q + q % 2

/-- The quotient scaled by `2 ^ -q`. -/
def scaled (num den : Nat) (q : Int) : Nat × Nat :=
  if q < 0 then (num * Nat.pow 2 q.natAbs, den) else (num, den * Nat.pow 2 q.natAbs)

/-- The exponent at which a positive quotient has 53 binary digits, or the least exponent. -/
def binaryExponent (num den : Nat) : Int :=
  let guess : Int := (num.log2 : Int) - den.log2 - 52
  let at53 (q : Int) : Bool := let s := scaled num den q; decide (s.1 < Nat.pow 2 53 * s.2)
  let q := if at53 (guess - 1) then guess - 1 else if at53 guess then guess else guess + 1
  max q (-1074)

end Decimal

/-! ## 2. Binary fractions -/

namespace Fraction

open Decimal

/-- Nothing. -/
def zero : Fraction := ⟨0, -1074⟩

/-- The binary fraction nearest to a quotient; none if it is too great for one. -/
def nearest (num den : Nat) : Option Fraction :=
  if num = 0 then some zero
  else
    let q := binaryExponent num den
    let s := scaled num den q
    let m := roundEven s.1 s.2
    let (m, q) := if m = Nat.pow 2 53 then (Nat.pow 2 52, q + 1) else (m, q)
    if q > 971 then none else some ⟨m, q⟩

/-- A binary fraction as a quotient. -/
def ratio (f : Fraction) : Nat × Nat := ratioTwo f.digits f.exponent

/-- The product, rounded. -/
def times (f g : Fraction) : Option Fraction :=
  nearest (f.ratio.1 * g.ratio.1) (f.ratio.2 * g.ratio.2)

/-- The quotient by a positive fraction, rounded. -/
def quotient (f g : Fraction) : Option Fraction :=
  nearest (f.ratio.1 * g.ratio.2) (f.ratio.2 * g.ratio.1)

/-- The greatest power of ten in range. -/
def greatestTen : Nat := 308

/-- A power of ten, rounded. -/
def tenTo (e : Nat) : Option Fraction := nearest (Nat.pow 10 e) 1

/-- `f · 10 ^ e`, rounded once for each power of ten that is in range. -/
def timesTen (f : Fraction) (e : Int) : Option Fraction :=
  if f.digits = 0 then some f
  else if (greatestTen : Int) < e then none
  else if _h : e < -(greatestTen : Int) then do
    let smaller ← f.quotient (← tenTo greatestTen)
    timesTen smaller (e + greatestTen)
  else do
    let ten ← tenTo e.natAbs
    if 0 ≤ e then f.times ten else f.quotient ten
termination_by e.natAbs
decreasing_by simp only [greatestTen] at _h ⊢; omega

end Fraction

namespace Decimal

/-- The binary fraction that a numeral stands for; none if it is out of range. -/
def value (d : Decimal) : Option Fraction :=
  (Fraction.nearest d.digits 1).bind fun f => f.timesTen d.exponent

/-! ## 3. The shortest numeral -/

/-- `n · 10 ^ p` rounds to `m · 2 ^ q`: twice it lies between the midpoints to the neighbours, which
count if `m` is even. -/
def readsBack (m : Nat) (q : Int) (n : Nat) (p : Int) : Bool :=
  let (a, b) := ratioTen n p
  let (c, d) := ratioTwo 1 (q - 2)
  let lowStep := if m = Nat.pow 2 52 ∧ q > -1074 then 1 else 2
  let x := a * d
  let low := (4 * m - lowStep) * c * b
  let high := (4 * m + 2) * c * b
  if m % 2 = 0 then decide (low ≤ x) && decide (x ≤ high) else decide (low < x) && decide (x < high)

/-- The distance between `n · 10 ^ p` and `m · 2 ^ q`, in units that both share. -/
def distance (m : Nat) (q : Int) (n : Nat) (p : Int) : Nat :=
  let (a, b) := ratioTen n p
  let (c, d) := ratioTwo m q
  max (a * d) (c * b) - min (a * d) (c * b)

/-- The shortest numeral on the decimal grids from `10 ^ p` down, with `fuel` grids to try. -/
def shortestFrom (m : Nat) (q : Int) : Nat → Int → Nat × Int
  | 0, p => (0, p)
  | fuel + 1, p =>
    let (c, d) := ratioTwo m q
    let (a, b) := ratioTen 1 p
    let s := c * b / (d * a)
    let low := readsBack m q s p
    let high := readsBack m q (s + 1) p
    if low && high then
      if distance m q s p < distance m q (s + 1) p then (s, p)
      else if distance m q (s + 1) p < distance m q s p then (s + 1, p)
      else (s + s % 2, p)
    else if low then (s, p)
    else if high then (s + 1, p)
    else shortestFrom m q fuel (p - 1)

/-- The fewest decimal digits that read back as a positive binary fraction. -/
def shortest (m : Nat) (q : Int) : Nat × Int :=
  let (c, d) := ratioTwo m q
  let top : Int :=
    if c < d then -((d / c).log2 * 3 / 10 : Nat) + 1 else ((c / d).log2 / 3 : Nat) + 1
  shortestFrom m q 400 top

/-! ## 4. Text -/

/-- Digits and the exponent of the last of them in the written form. -/
def positional (digits : List Char) (exponent : Int) : List Char :=
  let point : Int := digits.length + exponent
  let sign := if point - 1 < 0 then '-' else '+'
  let tail := sign :: Nat.toDigits 10 (point - 1).natAbs
  if 0 ≤ exponent ∧ point ≤ 16 then digits ++ List.replicate exponent.natAbs '0' ++ ['.', '0']
  else if 0 < point ∧ point ≤ 16 then
    digits.take point.natAbs ++ '.' :: digits.drop point.natAbs
  else if -5 < point ∧ point ≤ 0 then
    '0' :: '.' :: List.replicate point.natAbs '0' ++ digits
  else
    match digits with
    | [c] => c :: 'e' :: tail
    | c :: rest => c :: '.' :: rest ++ 'e' :: tail
    | [] => []

/-- The written form of the binary fraction that a numeral stands for. -/
def text (d : Decimal) : String :=
  let body :=
    match d.value with
    | none => "inf".toList
    | some ⟨0, _⟩ => "0.0".toList
    | some ⟨m, q⟩ => let (n, p) := shortest m q; positional (Nat.toDigits 10 n) p
  String.ofList (if d.negative then '-' :: body else body)

end Decimal

end TypeMapper
