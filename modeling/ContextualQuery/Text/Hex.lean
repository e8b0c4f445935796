namespace ContextualQuery.Text

/-- The value of a hexadecimal digit of either case. -/
def hexDigit? (c : Char) : Option Nat :=
  if '0' ≤ c ∧ c ≤ '9' then some (c.toNat - '0'.toNat)
  else if 'a' ≤ c ∧ c ≤ 'f' then some (c.toNat - 'a'.toNat + 10)
  else if 'A' ≤ c ∧ c ≤ 'F' then some (c.toNat - 'A'.toNat + 10)
  else none

/-- The number of hexadecimal digits after a letter that announces a code point. -/
def hexWidth? (c : Char) : Option Nat :=
  match c with
  | 'x' => some 2
  | 'u' => some 4
  | 'U' => some 8
  | _ => none

/-- The number that hexadecimal digits spell, most significant first, after those of `n`. -/
def hexFrom? (n : Nat) : List Char → Option Nat
  | [] => some n
  | c :: cs =>
    match hexDigit? c with
    | none => none
    | some d => hexFrom? (n * 16 + d) cs

def hexValue? (digits : List Char) : Option Nat := hexFrom? 0 digits

def hexDigit (capital : Bool) (n : Nat) : Char :=
  (if capital then "0123456789ABCDEF" else "0123456789abcdef").toList.getD n '0'

/-- The four digits of a code point below `256`. -/
def hexCode (capital : Bool) (n : Nat) : List Char :=
  ['0', '0', hexDigit capital (n / 16), hexDigit capital (n % 16)]

theorem hexDigit?_hexDigit :
    ∀ capital, ∀ n < 16, hexDigit? (hexDigit capital n) = some n := by
  decide

theorem hexValue?_hexCode (capital : Bool) {n : Nat} (small : n < 256) :
    hexValue? (hexCode capital n) = some n := by
  have zero : hexDigit? '0' = some 0 := rfl
  have high := hexDigit?_hexDigit capital (n / 16) (by omega)
  have low := hexDigit?_hexDigit capital (n % 16) (by omega)
  simp only [hexValue?, hexCode, hexFrom?, zero, high, low, Option.some.injEq]
  omega

end ContextualQuery.Text
