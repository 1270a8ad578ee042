/-!
# Binary floating point numbers of 64 bits

A finite nonnegative number is a significand below 2^53 times a power of two not below 2^-1074, with
the significand at least 2^52 unless the power is the least.  A ratio of natural numbers is rounded
to the nearest such number, a tie to the even significand; one too large has none.  A decimal
`s · 10^k` is read by rounding `s`, then multiplying by or dividing by the rounded power of ten, so
there are up to two roundings.
-/

namespace MigrationAudit

structure Binary64 where
  significand : Nat
  exponent : Int
  deriving DecidableEq, Repr

/-- The quotient rounded to the nearest natural number, a tie to the even one. -/
def roundDiv (num den : Nat) : Nat :=
  let q := num / den
  let r := num % den
  if 2 * r < den then q
  else if den < 2 * r then q + 1
  else if q % 2 = 0 then q else q + 1

namespace Binary64

def leastExponent : Int := -1074

def greatestExponent : Int := 971

def zero : Binary64 := ⟨0, leastExponent⟩

/-- The ratio `num / den` in units of `2^e`, as a ratio again. -/
def inUnits (num den : Nat) (e : Int) : Nat × Nat :=
  match e with
  | .ofNat k => (num, den * Nat.pow 2 k)
  | .negSucc k => (num * Nat.pow 2 (k + 1), den)

/-- The exponent that gives the ratio a significand of 53 bits, but not below the least one. -/
def exponentFor (num den : Nat) : Int :=
  let e : Int := Nat.log2 num - Nat.log2 den - 53
  let (a, b) := inUnits num den e
  max leastExponent (if Nat.pow 2 53 ≤ a / b then e + 1 else e)

/-- The nearest number to a ratio, if there is a finite one. -/
def ofRatio? (num den : Nat) : Option Binary64 :=
  if num = 0 then some zero
  else
    let e := exponentFor num den
    let (a, b) := inUnits num den e
    let m := roundDiv a b
    let x : Binary64 := if m = Nat.pow 2 53 then ⟨Nat.pow 2 52, e + 1⟩ else ⟨m, e⟩
    if x.exponent ≤ greatestExponent then some x else none

def toRatio (x : Binary64) : Nat × Nat :=
  match x.exponent with
  | .ofNat k => (x.significand * Nat.pow 2 k, 1)
  | .negSucc k => (x.significand, Nat.pow 2 (k + 1))

def mul? (x y : Binary64) : Option Binary64 :=
  ofRatio? (x.toRatio.1 * y.toRatio.1) (x.toRatio.2 * y.toRatio.2)

def div? (x y : Binary64) : Option Binary64 :=
  ofRatio? (x.toRatio.1 * y.toRatio.2) (x.toRatio.2 * y.toRatio.1)

/-- The greatest power of ten that is used in one step. -/
def greatestPower : Nat := 308

def powerOfTen? (k : Nat) : Option Binary64 := ofRatio? (Nat.pow 10 k) 1

/-- Division by `10^308`, `blocks` times over; zero stays zero. -/
def shrink (x : Binary64) : Nat → Option Binary64
  | 0 => some x
  | blocks + 1 =>
    if x.significand = 0 then some x
    else do
      let y ← x.div? (← powerOfTen? greatestPower)
      y.shrink blocks

/-- The number read from the decimal `s · 10^k`, if it is finite. -/
def ofDecimal? (s : Nat) (k : Int) : Option Binary64 := do
  let x ← ofRatio? s 1
  match k with
  | .ofNat k =>
    if x.significand = 0 then some x
    else if greatestPower < k then none
    else x.mul? (← powerOfTen? k)
  | .negSucc k =>
    let blocks := k / greatestPower
    let y ← x.shrink blocks
    y.div? (← powerOfTen? (k + 1 - greatestPower * blocks))

end Binary64

end MigrationAudit
