/-!
# Binary64 — floating-point numbers as a sign and a magnitude code

A number of 64 bits is a sign and a 63-bit code of its magnitude. The code
grows with the magnitude: subnormal numbers come first, then each binade in
turn, then infinity, and the codes above infinity are not numbers. So the
comparisons of the query language are comparisons of integers, and
`roundCode` is the one place where a quotient of naturals is rounded.
-/

namespace RecordQuery

/-! ## Rounding a quotient to a width -/

/-- The quotient `n / d` rounded to the nearest natural, a half going to the
even one. -/
def divEven (n d : Nat) : Nat :=
  let q := n / d
  let r := n % d
  if 2 * r < d then q
  else if d < 2 * r then q + 1
  else if q % 2 = 0 then q else q + 1

/-- A floating-point width: the bits of a significand, the exponent of the
smallest unit, and the code of infinity. -/
structure Width where
  bits : Nat
  lowest : Int
  infinity : Nat
deriving DecidableEq, Repr

/-- Sixty-four bits. -/
def Width.double : Width := ⟨53, -1074, 0x7ff0000000000000⟩

/-- Thirty-two bits. -/
def Width.single : Width := ⟨24, -149, 0x7f800000⟩

/-- The number of codes in a binade, which is also its least significand. -/
def Width.binade (w : Width) : Nat := Nat.pow 2 (w.bits - 1)

/-- The binary logarithm of `n / d`, rounded down, for positive `n` and `d`. -/
def log2Quotient (n d : Nat) : Int :=
  let e : Int := (n.log2 : Int) - (d.log2 : Int)
  let below :=
    if 0 ≤ e then decide (n < d * Nat.pow 2 e.toNat) else decide (n * Nat.pow 2 (-e).toNat < d)
  if below then e - 1 else e

/-- The code of the number nearest to `n / d`, ties going to the even code. A
significand that rounds up to the next power of two carries into the
exponent, and whatever passes the largest number is infinity. -/
def Width.roundCode (w : Width) (n d : Nat) : Nat :=
  if n = 0 then 0
  else
    let unit := max w.lowest (log2Quotient n d - ((w.bits : Int) - 1))
    let significand :=
      if 0 ≤ unit then divEven n (d * Nat.pow 2 unit.toNat)
      else divEven (n * Nat.pow 2 (-unit).toNat) d
    min ((unit - w.lowest).toNat * w.binade + significand) w.infinity

/-- The significand that a code stands for. -/
def Width.significand (w : Width) (code : Nat) : Nat :=
  if code < w.binade then code else code % w.binade + w.binade

/-- The power of two that a code's significand is scaled by. -/
def Width.unit (w : Width) (code : Nat) : Int :=
  w.lowest + ((code / w.binade - 1 : Nat) : Int)

/-! ## Numbers -/

/-- A floating-point number of 64 bits. -/
structure Binary64 where
  negative : Bool
  code : Nat
  code_lt : code < 0x8000000000000000 := by decide
deriving DecidableEq, Repr

namespace Binary64

/-- The number with a sign and the code of a magnitude up to infinity. -/
def ofCode (negative : Bool) (code : Nat) : Binary64 :=
  ⟨negative, min code Width.double.infinity, by
    have : Width.double.infinity < 0x8000000000000000 := by decide
    omega⟩

/-- Positive zero. -/
def zero : Binary64 := ⟨false, 0, by decide⟩

/-- Infinity of either sign. -/
def infinity (negative : Bool) : Binary64 := ofCode negative Width.double.infinity

/-- The value that is not a number. -/
def notANumber : Binary64 := ⟨false, 0x7ff8000000000000, by decide⟩

instance : Inhabited Binary64 := ⟨zero⟩

/-- Neither an infinity nor the value that is not a number. -/
def isFinite (x : Binary64) : Bool := x.code < Width.double.infinity

/-- The codes above infinity are not numbers. -/
def isNaN (x : Binary64) : Bool := Width.double.infinity < x.code

/-- The significand of a finite number's magnitude. -/
def significand (x : Binary64) : Nat := Width.double.significand x.code

/-- The power of two that scales a finite number's significand. -/
def unit (x : Binary64) : Int := Width.double.unit x.code

/-- The numerator of a finite number's magnitude. -/
def numerator (x : Binary64) : Nat := x.significand * Nat.pow 2 x.unit.toNat

/-- The denominator of a finite number's magnitude, a power of two. -/
def denominator (x : Binary64) : Nat := Nat.pow 2 (-x.unit).toNat

/-- The number nearest to `n / d`, with a sign. -/
def ofQuotient (negative : Bool) (n d : Nat) : Binary64 :=
  ofCode negative (Width.double.roundCode n d)

/-- The number nearest to an integer. -/
def ofInt (n : Int) : Binary64 := ofQuotient (n < 0) n.natAbs 1

/-- A number after rounding to single width. A magnitude beyond that width's
largest number becomes infinite. -/
def toSingle (x : Binary64) : Binary64 :=
  if x.isFinite then
    let code := Width.single.roundCode x.numerator x.denominator
    if code < Width.single.infinity then
      let unit := Width.single.unit code
      ofQuotient x.negative (Width.single.significand code * Nat.pow 2 unit.toNat)
        (Nat.pow 2 (-unit).toNat)
    else infinity x.negative
  else x

/-! ## Comparing as numbers -/

/-- The position of a number on the line. Both zeros are at the origin. -/
def position (x : Binary64) : Int := if x.negative then -(x.code : Int) else x.code

/-- Equality of numbers. Zeros of either sign are equal, and what is not a
number equals nothing. -/
def eq (x y : Binary64) : Bool := !x.isNaN && !y.isNaN && x.position == y.position

/-- The order of numbers, in which what is not a number takes no part. -/
def lt (x y : Binary64) : Bool := !x.isNaN && !y.isNaN && decide (x.position < y.position)

/-- Less or equal, as numbers. -/
def le (x y : Binary64) : Bool := !x.isNaN && !y.isNaN && decide (x.position ≤ y.position)

/-- A finite number is equal to itself. -/
theorem eq_self {x : Binary64} (hx : x.isFinite = true) : x.eq x = true := by
  simp only [isFinite, decide_eq_true_eq] at hx
  simp only [eq, isNaN, decide_eq_false (Nat.lt_asymm hx), Bool.not_false, Bool.true_and,
    beq_self_eq_true]

/-! ## Comparing all values -/

/-- The place of a value in the total order: negative zero lies just below
positive zero, and what is not a number lies outside the infinity of its
sign. -/
def rank (x : Binary64) : Int := if x.negative then -(x.code : Int) - 1 else x.code

/-- The total order of all values. -/
def totalCompare (x y : Binary64) : Ordering := compare x.rank y.rank

/-- **The total order tells all values apart.** -/
theorem rank_inj {x y : Binary64} : x.rank = y.rank ↔ x = y := by
  constructor
  · intro h
    obtain ⟨sx, cx, hx⟩ := x
    obtain ⟨sy, cy, hy⟩ := y
    cases sx <;> cases sy <;> simp only [rank, Bool.false_eq_true, if_true, if_false] at h <;>
      simp only [mk.injEq, true_and, reduceCtorEq, false_and] <;> omega
  · intro h
    rw [h]

end Binary64

end RecordQuery
