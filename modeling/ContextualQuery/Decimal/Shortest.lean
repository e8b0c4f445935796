import ContextualQuery.Decimal.Binary64

/-!
# Shortest decimals and their text

The decimal with the fewest digits that rounds to a given binary number, and of those the nearest.
For each number of digits, starting from one, the two neighbours of the number on that decimal grid
are tried; if any decimal of so many digits rounds to the number, one of the neighbours does.

Plain notation always shows a fraction. Scientific notation shows one only where there are more
digits than one, and the sign of the exponent always.
-/
namespace ContextualQuery

/-- The number `0.d₁d₂… · 10 ^ point`, where the digits are those of `digits`. -/
structure Decimal where
  digits : Nat
  point : Int
deriving DecidableEq, Inhabited

namespace Decimal

/-- Compares `a · 10 ^ k` with `b · 2 ^ e`. -/
def compareScaled (a : Nat) (k : Int) (b : Nat) (e : Int) : Ordering :=
  compare (a * Nat.pow 10 k.toNat * Nat.pow 2 (-e).toNat)
    (b * Nat.pow 2 e.toNat * Nat.pow 10 (-k).toNat)

/-- Whether `c · 10 ^ k` rounds to the magnitude. A half way counts to the even mantissa; below a
power of two the next magnitude is only half as far. -/
def roundsTo (m : Magnitude) (c : Nat) (k : Int) : Bool :=
  let below := if m.mantissa = Nat.pow 2 52 ∧ -1074 < m.exponent then 1 else 2
  let low := compareScaled c k (4 * m.mantissa - below) (m.exponent - 2)
  let high := compareScaled c k (4 * m.mantissa + 2) (m.exponent - 2)
  let even := m.mantissa % 2 = 0
  (low = .gt ∨ (low = .eq ∧ even)) ∧ (high = .lt ∨ (high = .eq ∧ even))

/-- The number of decimal places before the point of `m`: `10 ^ (p - 1) ≤ m < 10 ^ p`. -/
def places (m : Magnitude) : Int :=
  let guess : Int := ((m.mantissa.log2 : Int) + m.exponent) * 30103 / 100000
  if compareScaled 1 (guess + 1) m.mantissa m.exponent = .gt then guess + 1 else guess + 2

/-- The neighbour of `m` with `n` digits that rounds to it, the nearer of two and the even one from
half way between them. -/
def withDigits? (m : Magnitude) (n : Nat) : Option Decimal :=
  let point := places m
  let k := point - n
  let low := (m.mantissa * Nat.pow 2 m.exponent.toNat * Nat.pow 10 (-k).toNat) /
    (Nat.pow 10 k.toNat * Nat.pow 2 (-m.exponent).toNat)
  let side := compareScaled (2 * low + 1) k (2 * m.mantissa) m.exponent
  let nearer := if side = .gt ∨ (side = .eq ∧ low % 2 = 0) then low else low + 1
  let farther := if nearer = low then low + 1 else low
  let make (c : Nat) : Decimal := if c = Nat.pow 10 n then ⟨1, point + 1⟩ else ⟨c, point⟩
  if roundsTo m nearer k then some (make nearer)
  else if roundsTo m farther k then some (make farther)
  else none

def search (m : Magnitude) : Nat → Nat → Decimal
  | 0, _ => ⟨0, 1⟩
  | fuel + 1, n => (withDigits? m n).getD (search m fuel (n + 1))

/-- The shortest decimal that rounds to `m`. Seventeen digits always suffice. -/
def shortest (m : Magnitude) : Decimal :=
  if m.mantissa = 0 then ⟨0, 1⟩ else search m 17 1

def chars (d : Decimal) : List Char := Nat.toDigits 10 d.digits

/-- The decimal exponent: the number is `d₁.d₂… · 10 ^ exponent`. -/
def exponent (d : Decimal) : Int := d.point - 1

/-- Plain notation, with at least one digit on both sides of the point. -/
def plain (d : Decimal) : String :=
  let places := d.point.toNat
  let whole := if places = 0 then ['0'] else
    d.chars.take places ++ List.replicate (places - d.chars.length) '0'
  let fraction := List.replicate (-d.point).toNat '0' ++ d.chars.drop places
  String.ofList (whole ++ '.' :: if fraction.isEmpty then ['0'] else fraction)

def scientific (d : Decimal) : String :=
  let fraction := d.chars.drop 1
  String.ofList (d.chars.take 1 ++ (if fraction.isEmpty then [] else '.' :: fraction)) ++
    "e" ++ (if d.exponent < 0 then "-" else "+") ++ toString d.exponent.natAbs

def between (low high : Int) (d : Decimal) : String :=
  if low ≤ d.exponent ∧ d.exponent < high then d.plain else d.scientific

end Decimal

def Binary64.text (layout : Decimal → String) (b : Binary64) : String :=
  (if b.negative then "-" else "") ++ layout (.shortest b.magnitude)

end ContextualQuery
