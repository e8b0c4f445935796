import ContextualQuery.Json.Number
import ContextualQuery.Text.Hex
import ContextualQuery.Toml.Value

/-!
# TOML values without quotes

Truth values, integers, floating-point numbers, dates and times. Each function reads a whole word
and fails if it is something else.
-/
namespace ContextualQuery.Toml

def digitIn? (base : Nat) (c : Char) : Option Nat :=
  (Text.hexDigit? c).filter (· < base)

/-- Digits of a base with single underscores between them: the digits after a first one, and what
is left. -/
def moreDigits (base : Nat) : List Char → List Nat × List Char
  | [] => ([], [])
  | [c] =>
    match digitIn? base c with
    | some d => ([d], [])
    | none => ([], [c])
  | c :: c' :: cs =>
    match digitIn? base c with
    | some d =>
      let (ds, rest) := moreDigits base (c' :: cs)
      (d :: ds, rest)
    | none =>
      match if c = '_' then digitIn? base c' else none with
      | some d =>
        let (ds, rest) := moreDigits base cs
        (d :: ds, rest)
      | none => ([], c :: c' :: cs)

def digits? (base : Nat) (cs : List Char) : Option (List Nat × List Char) :=
  match cs with
  | [] => none
  | c :: _ =>
    if (digitIn? base c).isSome then some (moreDigits base cs) else none

def ofDigits (base : Nat) (ds : List Nat) : Nat := ds.foldl (fun n d => n * base + d) 0

/-- Whether digits are the plain spelling of a number, with no needless zero in front. -/
def isPlain (ds : List Nat) : Bool := ds.length == 1 || ds.head? != some 0

def sign : List Char → Bool × List Char
  | '+' :: cs => (false, cs)
  | '-' :: cs => (true, cs)
  | cs => (false, cs)

def baseMark? : List Char → Option (Nat × List Char)
  | '0' :: 'x' :: cs => some (16, cs)
  | '0' :: 'o' :: cs => some (8, cs)
  | '0' :: 'b' :: cs => some (2, cs)
  | _ => none

/-- Whether each underscore of a text stands between hexadecimal digits. -/
def underscoresJoin : List Char → Bool
  | a :: '_' :: b :: cs =>
    (Text.hexDigit? a).isSome && (Text.hexDigit? b).isSome && underscoresJoin (b :: cs)
  | c :: cs => c != '_' && underscoresJoin cs
  | [] => true

/-- Whether a word has the looks of an integer. After an underscore in a decimal number only the
characters beside underscores are looked at, and after the mark of a base there may be nothing. -/
def isNumeral (cs : List Char) : Bool :=
  match baseMark? cs with
  | some (base, digits) => digits.isEmpty || (digits? base digits).any (·.2.isEmpty)
  | none =>
    let unsigned := (sign cs).2
    let (whole, rest) := unsigned.span Json.isDigit
    let joined := rest.head? == some '_' && underscoresJoin unsigned &&
      !rest.any fun c => c == '.' || c == 'e' || c == 'E'
    !whole.isEmpty && (rest.isEmpty || joined) && (unsigned.length == 1 || whole.head? != some '0')

/-- The integer that a word spells. Only decimal integers take a sign. -/
def integer? (cs : List Char) : Option Int :=
  match baseMark? cs with
  | some (base, cs) =>
    match digits? base cs with
    | some (ds, []) => some (ofDigits base ds)
    | _ => none
  | none =>
    let (negative, cs) := sign cs
    match digits? 10 cs with
    | some (ds, []) =>
      if isPlain ds then some (if negative then -ofDigits 10 ds else ofDigits 10 ds) else none
    | _ => none

def fraction? (cs : List Char) : Option (List Nat × List Char) :=
  match cs with
  | '.' :: cs => digits? 10 cs
  | cs => some ([], cs)

def exponent? (cs : List Char) : Option (Int × List Char) :=
  match cs with
  | c :: cs =>
    if c = 'e' ∨ c = 'E' then
      let (negative, cs) := sign cs
      (digits? 10 cs).map fun (ds, rest) =>
        (if negative then -ofDigits 10 ds else ofDigits 10 ds, rest)
    else some (0, c :: cs)
  | [] => some (0, [])

/-- The floating-point number nearest to `n · 10 ^ e`. -/
def nearest (negative : Bool) (n : Nat) (e : Int) : Floating :=
  let size : Int := (Nat.toDigits 10 n).length
  if n = 0 ∨ e + size < -400 then .finite ⟨negative, .zero⟩
  else if 400 < e + size then .tooLarge
  else match Magnitude.ofRatio? (n * Nat.pow 10 e.toNat) (Nat.pow 10 (-e).toNat) with
    | some m => .finite ⟨negative, m⟩
    | none => .tooLarge

def float? (cs : List Char) : Option Floating := do
  let (negative, cs) := sign cs
  if cs = ['i', 'n', 'f'] then return .infinite negative
  if cs = ['n', 'a', 'n'] then return .nan
  let (whole, afterWhole) ← digits? 10 cs
  let (fraction, afterFraction) ← fraction? afterWhole
  let (exponent, rest) ← exponent? afterFraction
  if isPlain whole && rest.isEmpty && !afterWhole.isEmpty then
    return nearest negative (ofDigits 10 (whole ++ fraction)) (exponent - fraction.length)
  else none

def field? (n : Nat) (cs : List Char) : Option (Nat × List Char) :=
  if (cs.take n).length = n && (cs.take n).all Json.isDigit then
    some (ofDigits 10 ((cs.take n).filterMap Json.digit?), cs.drop n)
  else none

def after? (due : Char) : List Char → Option (List Char)
  | c :: cs => if c = due then some cs else none
  | [] => none

def daysIn (year month : Nat) : Nat :=
  let leap := year % 4 = 0 ∧ (year % 100 ≠ 0 ∨ year % 400 = 0)
  if month = 2 then (if leap then 29 else 28)
  else if month = 4 ∨ month = 6 ∨ month = 9 ∨ month = 11 then 30
  else 31

def date? (cs : List Char) : Option (List Char) := do
  let (year, cs) ← field? 4 cs
  let (month, cs) ← field? 2 (← after? '-' cs)
  let (day, cs) ← field? 2 (← after? '-' cs)
  if 1 ≤ month ∧ month ≤ 12 ∧ 1 ≤ day ∧ day ≤ daysIn year month then some cs else none

def hourMinute? (cs : List Char) : Option (List Char) := do
  let (hour, cs) ← field? 2 cs
  let (minute, cs) ← field? 2 (← after? ':' cs)
  if hour ≤ 23 ∧ minute ≤ 59 then some cs else none

/-- What is left after seconds and parts of them, which may be missing. -/
def seconds? (cs : List Char) : Option (List Char) :=
  match cs with
  | ':' :: cs => do
    let (second, cs) ← field? 2 cs
    if 60 < second then none
    else match cs with
      | '.' :: cs =>
        if cs.head?.any Json.isDigit then some (cs.dropWhile Json.isDigit) else none
      | cs => some cs
  | cs => some cs

def time? (cs : List Char) : Option (List Char) := (hourMinute? cs).bind seconds?

/-- What is left after an offset from universal time, which may be missing. -/
def offset? (cs : List Char) : Option (List Char) :=
  match cs with
  | [] => some []
  | c :: cs =>
    if c = 'Z' ∨ c = 'z' then some cs
    else if c = '+' ∨ c = '-' then hourMinute? cs
    else none

def isDatetime (cs : List Char) : Bool :=
  match date? cs with
  | none => time? cs == some []
  | some [] => true
  | some (c :: rest) =>
    (c == 'T' || c == 't' || c == ' ') && (time? rest).bind offset? == some []

def scalar? (cs : List Char) : Option Value :=
  if cs = ['t', 'r', 'u', 'e'] then some (.boolean true)
  else if cs = ['f', 'a', 'l', 's', 'e'] then some (.boolean false)
  else if isNumeral cs then some (.integer (integer? cs))
  else match float? cs with
    | some f => some (.float f)
    | none => if isDatetime cs then some .datetime else none

def endsWord (c : Char) : Bool :=
  " \t\r\n,[]\x7b\x7d#=".toList.contains c

/-- The word at the start of a text and what is left. A date takes a time after one space with
it. -/
def splitWord (cs : List Char) : List Char × List Char :=
  let (word, rest) := cs.span (!endsWord ·)
  match rest with
  | ' ' :: c :: more =>
    if date? word == some [] && Json.isDigit c then
      let (time, rest) := (c :: more).span (!endsWord ·)
      (word ++ ' ' :: time, rest)
    else (word, rest)
  | rest => (word, rest)

def readScalar (cs : List Char) : Except Fault (Value × List Char) :=
  let (word, rest) := splitWord cs
  match scalar? word with
  | some v => .ok (v, rest)
  | none => .error ⟨.invalidScalar, .between cs rest⟩

end ContextualQuery.Toml
