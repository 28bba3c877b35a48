/-! # Finite binary64 values, held exactly

`Binary64` is a finite IEEE 754 double written out as a sign, a significand below `2^53` and a
binary exponent: the value is `(-1)^negative * significand * 2^exponent`. Values are kept in
canonical form: a normal value has a significand in `[2^52, 2^53)`, a subnormal value or zero has
the exponent `-1074`.

* `Binary64.ofScaled` rounds the exact value `num / den * 2^shift` to the nearest double, ties to
  an even significand, with gradual underflow; it answers `none` past the largest finite double.
* `Binary64.mul` and `Binary64.div` are that rounding applied to the exact product and quotient,
  which is what IEEE 754 prescribes for one operation.
* `Binary64.ofDecimal` is that rounding applied to the exact value of a decimal `c * 10^e`.
* `Binary64.ofDecimalParts` builds a double from a decimal significand and exponent the way a
  streaming JSON reader does: one conversion of the significand, then one multiplication or
  division by a tabulated power of ten per step of at most `10^308`.

All arithmetic is on `Nat` and `Int`; no hardware float is involved.
-/

namespace ChatGateway

/-- A finite double: `(-1)^negative * significand * 2^exponent`, in canonical form. -/
structure Binary64 where
  negative : Bool
  significand : Nat
  exponent : Int
  deriving DecidableEq, Repr

namespace Binary64

/-- The exponent of subnormal values and of zero. -/
def minExponent : Int := -1074

/-- The largest exponent of a finite value: its significand is below `2^53`. -/
def maxExponent : Int := 971

/-- Positive zero. -/
def zero : Binary64 := ⟨false, 0, minExponent⟩

/-- Whether the value is a zero of either sign. -/
def isZero (x : Binary64) : Bool := x.significand == 0

/-- The same magnitude with the other sign. -/
def negate (x : Binary64) : Binary64 := { x with negative := !x.negative }

/-- `2^k` for an integer `k ≥ 0`, and `1` below. -/
def pow2 (k : Int) : Nat := Nat.pow 2 k.toNat

/-- `⌊log₂ (num / den)⌋` for positive `num` and `den`. -/
def floorLog2Ratio (num den : Nat) : Int :=
  let t : Int := (Nat.log2 num : Int) - (Nat.log2 den : Int)
  if 0 ≤ t then
    if den * Nat.pow 2 t.toNat ≤ num then t else t - 1
  else
    if den ≤ num * Nat.pow 2 (-t).toNat then t else t - 1

/-- Rounds the integer quotient `n / d` to the nearest integer, ties to even. -/
def roundHalfEven (n d : Nat) : Nat :=
  let q := n / d
  let r := n % d
  if 2 * r > d then q + 1
  else if 2 * r < d then q
  else if q % 2 == 0 then q else q + 1

/-- The double nearest to `num / den * 2^shift`, with sign `negative`; `none` when the rounded
magnitude reaches `2^1024`. A zero numerator gives a zero of the requested sign. -/
def ofScaled (negative : Bool) (num den : Nat) (shift : Int) : Option Binary64 :=
  if num = 0 ∨ den = 0 then some ⟨negative, 0, minExponent⟩
  else
    let top := floorLog2Ratio num den + shift
    let q := max (top - 52) minExponent
    let s := shift - q
    let n := if 0 ≤ s then num * pow2 s else num
    let d := if 0 ≤ s then den else den * pow2 (-s)
    let m := roundHalfEven n d
    let (m, q) := if m = Nat.pow 2 53 then (Nat.pow 2 52, q + 1) else (m, q)
    if q > maxExponent then none
    else if m = 0 then some ⟨negative, 0, minExponent⟩
    else some ⟨negative, m, q⟩

/-- The exact value as a ratio of naturals, ignoring the sign. -/
def magnitude (x : Binary64) : Nat × Nat :=
  if 0 ≤ x.exponent then (x.significand * pow2 x.exponent, 1)
  else (x.significand, pow2 (-x.exponent))

/-- The double nearest to a natural number. Every `u64` converts to a finite double. -/
def ofNat (n : Nat) : Binary64 :=
  (ofScaled false n 1 0).getD zero

/-- The rounded product; `none` on overflow. -/
def mul (x y : Binary64) : Option Binary64 :=
  ofScaled (x.negative != y.negative) (x.significand * y.significand) 1 (x.exponent + y.exponent)

/-- The rounded quotient; `none` on overflow or when dividing by zero. -/
def div (x y : Binary64) : Option Binary64 :=
  if y.significand = 0 then none
  else ofScaled (x.negative != y.negative) x.significand y.significand (x.exponent - y.exponent)

/-- `10^k` rounded to the nearest double, for `k ≤ 308` (all finite). -/
def pow10 (k : Nat) : Binary64 :=
  (ofScaled false (Nat.pow 10 k) 1 0).getD zero

/-- Dividing by `10^308` until the remaining negative exponent fits the table, then once more. -/
def scaleDown (f : Binary64) (exponent : Int) : Binary64 :=
  if h : exponent < -308 then
    if f.isZero then f
    else scaleDown ((div f (pow10 308)).getD zero) (exponent + 308)
  else
    (div f (pow10 (-exponent).toNat)).getD zero
termination_by (-exponent).toNat
decreasing_by omega

/-- **The double nearest to `c * 10^e`,** ties to an even significand; `none` past the largest
finite double. Values that are certainly out of range are decided by their number of digits. -/
def ofDecimal (negative : Bool) (c : Nat) (e : Int) : Option Binary64 :=
  let digits : Int := (toString c).length
  if c = 0 then some ⟨negative, 0, minExponent⟩
  else if digits + e > 310 then none
  else if digits + e < -325 then some ⟨negative, 0, minExponent⟩
  else if 0 ≤ e then ofScaled negative (c * Nat.pow 10 e.toNat) 1 0
  else ofScaled negative c (Nat.pow 10 (-e).toNat) 0

/-- The double a streaming JSON reader builds from `significand * 10^exponent`: the significand
converted once, then scaled by tabulated powers of ten. `none` means the value left the finite
range while scaling up. -/
def ofDecimalParts (negative : Bool) (significand : Nat) (exponent : Int) : Option Binary64 :=
  let f := ofNat significand
  let r :=
    if 0 ≤ exponent then
      if exponent ≤ 308 then mul f (pow10 exponent.toNat)
      else if f.isZero then some f
      else none
    else some (scaleDown f exponent)
  r.map fun v => if negative then v.negate else v

end Binary64

end ChatGateway
