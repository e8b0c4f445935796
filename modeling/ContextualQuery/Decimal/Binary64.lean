/-!
# Binary floating-point numbers

Finite numbers of double precision as exact integers: a magnitude is `mantissa · 2 ^ exponent`.
Arithmetic computes the exact result as a quotient of natural numbers and rounds it once, to the
nearest magnitude and from halfway to the even mantissa.
-/
namespace ContextualQuery

/-- The size of a number apart from its sign. A rounded magnitude has a mantissa below `2 ^ 53`
and an exponent from `-1074` to `971`. -/
structure Magnitude where
  mantissa : Nat
  exponent : Int
deriving DecidableEq, Inhabited

namespace Magnitude

def zero : Magnitude := ⟨0, -1074⟩

/-- The quotient rounded to the nearest integer, from halfway to the even one. -/
def roundDiv (num den : Nat) : Nat :=
  let q := num / den
  let r := num % den
  if 2 * r < den then q else if den < 2 * r then q + 1 else if q % 2 = 0 then q else q + 1

/-- The quotient `num / (den · 2 ^ e)` as a numerator and a denominator. -/
def scaled (num den : Nat) (e : Int) : Nat × Nat :=
  (num * Nat.pow 2 (-e).toNat, den * Nat.pow 2 e.toNat)

/-- The least exponent that leaves a rounded mantissa of `num / den` with 53 digits or fewer. -/
def exponentFor (num den : Nat) : Int :=
  let guess : Int := (num.log2 : Int) - den.log2 - 52
  let (n, d) := scaled num den guess
  max (-1074) (if n / d < Nat.pow 2 52 then guess - 1 else guess)

/-- The magnitude nearest to `num / den`, if it is not too large. -/
def ofRatio? (num den : Nat) : Option Magnitude :=
  if num = 0 then some zero
  else
    let e := exponentFor num den
    let (n, d) := scaled num den e
    let m := roundDiv n d
    let rounded : Magnitude := if m = Nat.pow 2 53 then ⟨Nat.pow 2 52, e + 1⟩ else ⟨m, e⟩
    if 971 < rounded.exponent then none else some rounded

def mul? (a b : Magnitude) : Option Magnitude :=
  let e := a.exponent + b.exponent
  ofRatio? (a.mantissa * b.mantissa * Nat.pow 2 e.toNat) (Nat.pow 2 (-e).toNat)

def div? (a b : Magnitude) : Option Magnitude :=
  let e := a.exponent - b.exponent
  ofRatio? (a.mantissa * Nat.pow 2 e.toNat) (b.mantissa * Nat.pow 2 (-e).toNat)

/-- The rounded power `10 ^ n`, if it is not too large. -/
def tenPow? (n : Nat) : Option Magnitude := ofRatio? (Nat.pow 10 n) 1

def maxTenPow : Nat := 308

/-- `a · 10 ^ e` in steps of at most `10 ^ 308`, each rounded, if it is not too large. -/
def scaleTen? (a : Magnitude) (e : Int) : Option Magnitude :=
  if _ : e.natAbs ≤ maxTenPow then do
    let ten ← tenPow? e.natAbs
    if 0 ≤ e then a.mul? ten else a.div? ten
  else if a.mantissa = 0 then some a
  else if 0 ≤ e then none
  else do
    let ten ← tenPow? maxTenPow
    let smaller ← a.div? ten
    smaller.scaleTen? (e + maxTenPow)
termination_by e.natAbs
decreasing_by
  simp only [maxTenPow] at *
  omega

end Magnitude

structure Binary64 where
  negative : Bool
  magnitude : Magnitude
deriving DecidableEq, Inhabited

end ContextualQuery
