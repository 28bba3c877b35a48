import ChatGateway.Num.Binary64

/-! # Shortest decimal digits of a double, and the two layouts that print them

`Binary64.shortest` finds, for a nonzero double `v`, the decimal `c * 10^k` with the fewest
significant digits that still rounds back to `v`; among several such decimals it takes the one
nearest to `v`. The search runs down the decimal grids `10^k`, largest first: the first grid with
a point inside the rounding interval of `v` gives the fewest digits, since a point on a coarser
grid would have been found before it.

Two layouts print those digits:

* `Binary64.exchangeText` is the layout of JSON number output: positional up to sixteen integer
  digits or down to `1e-5`, scientific beyond with a signed exponent (`1e+300`, `1.5e-7`), and a
  `.0` on integral values.
* `Binary64.plainText` is always positional (`1e300` is written with all its zeros), the layout
  of value descriptions in decoding errors.
-/

namespace ChatGateway

namespace Binary64

/-- The rounding interval of `v = m * 2^q`, scaled by `2^(2-q)`: lower end, value, upper end.
Below a power of two the lower neighbour is twice as near, so the lower end moves in by half. -/
def intervalQuarters (x : Binary64) : Nat × Nat × Nat :=
  let m := x.significand
  let lowerHalfGap := m = Nat.pow 2 52 ∧ x.exponent > minExponent
  (if lowerHalfGap then 4 * m - 1 else 4 * m - 2, 4 * m, 4 * m + 2)

/-- The smallest `c` with `c * b ≥ a`, that is `⌈a / b⌉`, for `b > 0`. -/
def ceilDiv (a b : Nat) : Nat := (a + b - 1) / b

/-- The candidates `c` with `c * 10^k` inside the interval, as a range `[lo, hi]` (empty when
`lo > hi`). The interval is `[L, H] * 2^p`; its ends belong to it when `closed`. -/
def gridRange (L H : Nat) (p k : Int) (closed : Bool) : Nat × Nat :=
  let a := pow2 p * Nat.pow 10 (-k).toNat
  let b := pow2 (-p) * Nat.pow 10 k.toNat
  let lo := if closed then ceilDiv (L * a) b else L * a / b + 1
  let hi := if closed then H * a / b else (H * a - 1) / b
  (lo, hi)

/-- The candidate of `[lo, hi]` nearest to `V * 2^p / 10^k`, ties to even. -/
def nearestIn (V : Nat) (p k : Int) (lo hi : Nat) : Nat :=
  let a := pow2 p * Nat.pow 10 (-k).toNat
  let b := pow2 (-p) * Nat.pow 10 k.toNat
  let c := roundHalfEven (V * a) b
  if c < lo then lo else if c > hi then hi else c

/-- Scans the grids `10^k, 10^(k-1), …` for the first one with a candidate; `fuel` bounds the
number of grids looked at. -/
def scanGrids (L V H : Nat) (p : Int) (closed : Bool) : Nat → Int → Nat × Int
  | 0, k => (nearestIn V p k 0 0, k)
  | fuel + 1, k =>
    let (lo, hi) := gridRange L H p k closed
    if lo ≤ hi then (nearestIn V p k lo hi, k)
    else scanGrids L V H p closed fuel (k - 1)

/-- A grid exponent at least as large as the first one with a candidate: past the number of
decimal digits of the upper end of the interval. -/
def startGrid (H : Nat) (p : Int) : Int :=
  ((((Nat.log2 H : Int) + 1 + p) * 30103) / 100000) + 2

/-- The shortest digits `c` and exponent `k` with `c * 10^k` rounding back to a nonzero `x`. -/
def shortest (x : Binary64) : Nat × Int :=
  let (L, V, H) := intervalQuarters x
  let p := x.exponent - 2
  scanGrids L V H p (x.significand % 2 == 0) 800 (startGrid H p)

/-- `n` copies of the digit zero. -/
def zeros (n : Nat) : String := String.ofList (List.replicate n '0')

/-- The digits of `c` with the decimal point after `at` of them, for `0 < at < length`. -/
def splitDigits (digits : String) (pos : Nat) : String :=
  String.ofList (digits.toList.take pos) ++ "." ++ String.ofList (digits.toList.drop pos)

/-- JSON number output: positional within sixteen digits and above `1e-5`, else scientific. -/
def exchangeText (x : Binary64) : String :=
  let sign := if x.negative then "-" else ""
  if x.isZero then sign ++ "0.0"
  else
    let (c, k) := x.shortest
    let digits := toString c
    let len : Int := digits.length
    let kk := len + k
    let body :=
      if 0 ≤ k ∧ kk ≤ 16 then digits ++ zeros k.toNat ++ ".0"
      else if 0 < kk ∧ kk ≤ 16 then splitDigits digits kk.toNat
      else if -5 < kk ∧ kk ≤ 0 then "0." ++ zeros (-kk).toNat ++ digits
      else
        let e := (if kk - 1 < 0 then "e" else "e+") ++ toString (kk - 1)
        if digits.length = 1 then digits ++ e
        else splitDigits digits 1 ++ e
    sign ++ body

/-- Positional output with every zero written out, and `.0` when no point would appear. -/
def plainText (x : Binary64) : String :=
  let sign := if x.negative then "-" else ""
  if x.isZero then sign ++ "0.0"
  else
    let (c, k) := x.shortest
    let digits := toString c
    let len : Int := digits.length
    let kk := len + k
    let body :=
      if kk ≤ 0 then "0." ++ zeros (-kk).toNat ++ digits
      else if len ≤ kk then digits ++ zeros (kk - len).toNat ++ ".0"
      else splitDigits digits kk.toNat
    sign ++ body

end Binary64

end ChatGateway
