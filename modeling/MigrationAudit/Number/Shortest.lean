import MigrationAudit.Number.Binary64

/-!
# The shortest decimal of a floating point number

A number is written with the fewest digits that still read as that number, and among those with the
digits nearest to it.  The decimals that read as a number are those in its rounding interval, whose
ends belong to it when the significand is even.  For one digit, two digits and so on the number's
two neighbours on the grid of that many digits are tried; seventeen digits always suffice.

The decimal is written positionally from 0.00001 up to below 10^16, always with a digit after the
point, and with a signed exponent beyond.
-/

namespace MigrationAudit.Binary64

/-- A decimal `digits · 10^exponent`. -/
structure Decimal where
  digits : Nat
  exponent : Int
  deriving DecidableEq, Repr

namespace Decimal

/-- The decimal as a ratio. -/
def toRatio (d : Decimal) : Nat × Nat :=
  match d.exponent with
  | .ofNat k => (d.digits * Nat.pow 10 k, 1)
  | .negSucc k => (d.digits, Nat.pow 10 (k + 1))

/-- Trailing zeros move into the exponent. -/
def stripZeros : Nat → Decimal → Decimal
  | 0, d => d
  | fuel + 1, d =>
    if d.digits ≠ 0 ∧ d.digits % 10 = 0 then stripZeros fuel ⟨d.digits / 10, d.exponent + 1⟩ else d

end Decimal

/-- The ends of the rounding interval and the number itself, over one denominator. -/
structure Interval where
  low : Nat
  value : Nat
  high : Nat
  den : Nat
  closed : Bool

/-- The numbers that round to `x`.  Below a power of two the neighbours lie closer. -/
def roundingInterval (x : Binary64) : Interval :=
  let m := x.significand
  let low := if m = Nat.pow 2 52 ∧ leastExponent < x.exponent then 4 * m - 1 else 4 * m - 2
  match x.exponent - 2 with
  | .ofNat k =>
    ⟨low * Nat.pow 2 k, 4 * m * Nat.pow 2 k, (4 * m + 2) * Nat.pow 2 k, 1, m % 2 == 0⟩
  | .negSucc k => ⟨low, 4 * m, 4 * m + 2, Nat.pow 2 (k + 1), m % 2 == 0⟩

namespace Interval

def contains (i : Interval) (d : Decimal) : Bool :=
  let (a, b) := d.toRatio
  if i.closed then i.low * b ≤ a * i.den && a * i.den ≤ i.high * b
  else i.low * b < a * i.den && a * i.den < i.high * b

/-- Twice the distance of a decimal to the number, scaled alike for the decimals of one grid. -/
def distance (i : Interval) (d : Decimal) : Nat :=
  let (a, b) := d.toRatio
  (a * i.den - i.value * b) + (i.value * b - a * i.den)

/-- The least `k` with the number at least `10^-k`, for a number below one. -/
def leadingPlace (i : Interval) : Nat → Nat → Nat
  | 0, k => k
  | fuel + 1, k => if i.den ≤ i.value * Nat.pow 10 k then k else i.leadingPlace fuel (k + 1)

/-- The exponent of the number's leading decimal digit. -/
def leadingExponent (i : Interval) : Int :=
  if i.den ≤ i.value then ((toString (i.value / i.den)).length : Int) - 1
  else -(i.leadingPlace 400 1 : Int)

/-- The neighbour below the number on the grid of decimals that are multiples of `10^e`. -/
def neighbour (i : Interval) (e : Int) : Decimal :=
  match e with
  | .ofNat k => ⟨i.value / (i.den * Nat.pow 10 k), e⟩
  | .negSucc k => ⟨i.value * Nat.pow 10 (k + 1) / i.den, e⟩

/-- The nearer of the two neighbours on a grid that lies in the interval. -/
def hit? (i : Interval) (e : Int) : Option Decimal :=
  let low := i.neighbour e
  let high : Decimal := ⟨low.digits + 1, e⟩
  match i.contains low, i.contains high with
  | false, false => none
  | true, false => some low
  | false, true => some high
  | true, true =>
    if i.distance low < i.distance high then some low
    else if i.distance high < i.distance low then some high
    else if low.digits % 2 = 0 then some low else some high

/-- The hit on the coarsest grid that has one, from grids with `17 - n` digits on. -/
def shortestFrom (i : Interval) (leading : Int) : Nat → Decimal
  | 0 => i.neighbour (leading - 16)
  | n + 1 =>
    match i.hit? (leading - 16 + n) with
    | some d => d
    | none => i.shortestFrom leading n

end Interval

/-- The shortest decimal that reads as the number. -/
def shortest (x : Binary64) : Decimal :=
  if x.significand = 0 then ⟨0, 0⟩
  else
    let i := x.roundingInterval
    (i.shortestFrom i.leadingExponent 17).stripZeros 20

/-- Positions of the leading digit that are written without an exponent. -/
def isPositional (leading : Int) : Bool := -5 ≤ leading && leading ≤ 15

def zeros (n : Nat) : List Char := List.replicate n '0'

/-- Digits with a point after the first `n`, zeros filled in where digits are missing. -/
def withPoint (digits : List Char) (n : Int) : List Char :=
  match n with
  | .ofNat k =>
    if digits.length ≤ k then digits ++ zeros (k - digits.length) ++ ['.', '0']
    else if k = 0 then '0' :: '.' :: digits
    else digits.take k ++ '.' :: digits.drop k
  | .negSucc k => '0' :: '.' :: zeros (k + 1) ++ digits

def withExponent (digits : List Char) (leading : Int) : List Char :=
  let exponent := 'e' :: (if 0 ≤ leading then "+" else "").toList ++ (toString leading).toList
  match digits with
  | [] => exponent
  | [d] => d :: exponent
  | d :: ds => d :: '.' :: ds ++ exponent

def Decimal.render (d : Decimal) : String :=
  let digits := (toString d.digits).toList
  let leading : Int := d.exponent + digits.length - 1
  if d.digits = 0 then "0.0"
  else if isPositional leading then String.ofList (withPoint digits (leading + 1))
  else String.ofList (withExponent digits leading)

def render (x : Binary64) : String := x.shortest.render

end MigrationAudit.Binary64
