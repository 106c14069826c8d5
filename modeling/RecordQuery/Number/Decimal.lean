import RecordQuery.Number.Binary64
/-!
# Decimal — decimals read to the nearest number and written with the fewest digits

A decimal is a coefficient and a power of ten. `Decimal.toBinary64` reads it
as the nearest floating-point number. `Binary64.toDecimal` goes back: of the
decimals that read back as the number it takes one with the fewest digits,
and of those the nearest. Where the digits are then placed is a `Layout`,
chosen by the text that is written.
-/

namespace RecordQuery

/-! ## Natural numbers in base ten -/

/-- The number that a digit character stands for. -/
def digitValue (c : Char) : Nat := c.toNat - '0'.toNat

/-- The number that a run of digit characters stands for. -/
def ofDigits (cs : List Char) : Nat := cs.foldl (fun n c => 10 * n + digitValue c) 0

/-- Whether every character is a digit. -/
def Digits (cs : List Char) : Prop := ∀ c ∈ cs, c.isDigit = true

/-- The digits of a natural number, most significant first. -/
def toDigits (n : Nat) : List Char := Nat.toDigits 10 n

/-- An integer in base ten. -/
def integerText (n : Int) : String :=
  (if n < 0 then "-" else "") ++ String.ofList (toDigits n.natAbs)

/-! ## Reading -/

/-- The decimal `coefficient * 10 ^ exponent`. -/
structure Decimal where
  coefficient : Nat
  exponent : Int
deriving DecidableEq, Repr

namespace Decimal

/-- The decimal with these digits before and behind the point, scaled by a
power of ten. -/
def ofParts (whole fraction : List Char) (exponent : Int) : Decimal :=
  ⟨ofDigits (whole ++ fraction), exponent - fraction.length⟩

/-- The numerator of a decimal. -/
def numerator (d : Decimal) : Nat := d.coefficient * Nat.pow 10 d.exponent.toNat

/-- The denominator of a decimal, a power of ten. -/
def denominator (d : Decimal) : Nat := Nat.pow 10 (-d.exponent).toNat

/-- The number nearest to a decimal, with a sign. Decimals beyond the four
hundredth power of ten, in either direction, are settled without computing
their quotient. -/
def toBinary64 (negative : Bool) (d : Decimal) : Binary64 :=
  if d.coefficient = 0 then .ofCode negative 0
  else if 400 < d.exponent then .infinity negative
  else if d.exponent + (d.coefficient.log2 : Int) + 1 < -400 then .ofCode negative 0
  else .ofQuotient negative d.numerator d.denominator

/-- A decimal without trailing zeros in its coefficient. -/
def strip (d : Decimal) : Decimal :=
  if h : d.coefficient ≠ 0 ∧ d.coefficient % 10 = 0 then
    strip ⟨d.coefficient / 10, d.exponent + 1⟩
  else d
termination_by d.coefficient
decreasing_by omega

/-- The exponent of the first digit when the digits are written with one
digit before the point. -/
def scientificExponent (d : Decimal) : Int :=
  d.exponent + ((toDigits d.coefficient).length : Int) - 1

end Decimal

/-! ## Writing with the fewest digits -/

/-- What decides between two decimals that are equally near. -/
inductive Tie where
  | toEven
  | up
deriving DecidableEq, Repr

namespace Binary64

/-- The least `k` for which a positive finite number lies below the `k`th
power of ten. The binary logarithm gives it up to two steps. -/
def decimalScale (x : Binary64) : Int :=
  let k := log2Quotient x.numerator x.denominator * 30103 / 100000
  let below (k : Int) : Bool :=
    x.numerator * Nat.pow 10 (-k).toNat < x.denominator * Nat.pow 10 k.toNat
  if below k then k else if below (k + 1) then k + 1 else k + 2

/-- The decimal on the grid of the `e`th power of ten that reads back as the
number, the nearer one where both neighbours do. -/
def onGrid? (x : Binary64) (tie : Tie) (e : Int) : Option Decimal :=
  let n := x.numerator * Nat.pow 10 (-e).toNat
  let d := x.denominator * Nat.pow 10 e.toNat
  let low := n / d
  let readsBack (c : Nat) : Bool := Decimal.toBinary64 x.negative ⟨c, e⟩ = x
  if readsBack low then
    if readsBack (low + 1) then
      let upper :=
        if (2 * low + 1) * d < 2 * n then true
        else if 2 * n < (2 * low + 1) * d then false
        else match tie with
          | .up => true
          | .toEven => low % 2 = 1
      some ⟨if upper then low + 1 else low, e⟩
    else some ⟨low, e⟩
  else if readsBack (low + 1) then some ⟨low + 1, e⟩
  else none

/-- A finite number's magnitude as a decimal, digit for digit. -/
def exactDecimal (x : Binary64) : Decimal :=
  if 0 ≤ x.unit then ⟨x.numerator, 0⟩
  else ⟨x.significand * Nat.pow 5 (-x.unit).toNat, x.unit⟩

/-- The shortest decimal of at most `17` digits that reads back as the
number, tried from `n` digits on; beyond them the exact one. -/
def searchDecimal (x : Binary64) (tie : Tie) (scale : Int) : (tries : Nat) → (n : Nat) → Decimal
  | 0, _ => x.exactDecimal
  | tries + 1, n =>
    match x.onGrid? tie (scale - n) with
    | some d => d
    | none => x.searchDecimal tie scale tries (n + 1)

/-- The magnitude of a finite number as a decimal with the fewest digits. -/
def toDecimal (x : Binary64) (tie : Tie) : Decimal :=
  if x.code = 0 then ⟨0, 0⟩
  else (x.searchDecimal tie x.decimalScale 17 1).strip

end Binary64

/-! ## Placing the digits -/

/-- The decisions of a text format for numbers: the exponents of the first
digit for which the digits are written out in place (all of them if there are
no bounds), whether a whole number gets a point and a zero, whether a
positive exponent gets a sign, and which of two equally near decimals is
written. -/
structure Layout where
  inPlace : Option (Int × Int)
  fraction : Bool
  plus : Bool
  tie : Tie
deriving DecidableEq, Repr

namespace Layout

/-- Digits written out in place. -/
def placeDigits (l : Layout) (digits : List Char) (exponent : Int) : List Char :=
  if 0 ≤ exponent then
    digits ++ List.replicate exponent.toNat '0' ++ (if l.fraction then ['.', '0'] else [])
  else
    let places := (-exponent).toNat
    if places < digits.length then
      digits.take (digits.length - places) ++ '.' :: digits.drop (digits.length - places)
    else '0' :: '.' :: (List.replicate (places - digits.length) '0' ++ digits)

/-- Digits written with an exponent, one digit before the point. -/
def withExponent (l : Layout) (digits : List Char) (exponent : Int) : List Char :=
  let mantissa := match digits with
    | [] => []
    | [c] => [c]
    | c :: rest => c :: '.' :: rest
  let sign := if l.plus && 0 ≤ exponent then ['+'] else []
  mantissa ++ 'e' :: (sign ++ (integerText exponent).toList)

/-- The text of a finite number's magnitude. -/
def magnitude (l : Layout) (x : Binary64) : List Char :=
  let d := x.toDecimal l.tie
  let digits := toDigits d.coefficient
  let first := d.scientificExponent
  let inPlace := match l.inPlace with
    | none => true
    | some (least, bound) => d.coefficient = 0 || (least ≤ first && first < bound)
  if inPlace then l.placeDigits digits d.exponent else l.withExponent digits first

/-- The text of a number. -/
def text (l : Layout) (x : Binary64) : String :=
  if x.isNaN then "NaN"
  else
    (if x.negative then "-" else "") ++
      (if x.isFinite then String.ofList (l.magnitude x) else "inf")

end Layout

end RecordQuery
