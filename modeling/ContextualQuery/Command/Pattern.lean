import ContextualQuery.Text.Basic
import ContextualQuery.Text.Hex
import ContextualQuery.Text.Lowercase
import ContextualQuery.Text.NameTable

/-!
# Patterns

Regular expressions, in the form that log filters take for the value of a field. Only fields of
spans are compared with patterns and this program opens no span, so a pattern is never run: all
that shows is whether it is one. A pattern is read over text without tables of Unicode's
properties: what could match a part of a character, or needs such a table, is no pattern. Nor is
what nests too deeply, so that the height of a pattern is counted while it is read.
-/
namespace ContextualQuery.Pattern

def heightLimit : Nat := 250

/-- How many parts a whole has so far, and the height of its highest part. -/
structure Tally where
  size : Nat := 0
  height : Nat := 0
deriving DecidableEq, Inhabited

namespace Tally

def add (t : Tally) (height : Nat) : Tally := ⟨t.size + 1, max t.height height⟩

/-- The height of the whole: a single part is the whole itself. -/
def whole (t : Tally) : Nat := if t.size ≤ 1 then t.height else t.height + 1

end Tally

structure Modes where
  /-- Whether classes and word boundaries are those of Unicode, or else of ASCII. -/
  unicode : Bool := true
  /-- Whether letters stand for both of their cases. -/
  caseless : Bool := false
  /-- Whether blanks and comments inside the pattern do not count. -/
  spaced : Bool := false
deriving DecidableEq, Inhabited

def skipBlank (inComment : Bool) : List Char → List Char
  | [] => []
  | c :: cs =>
    if inComment then skipBlank (c != '\n') cs
    else if Text.isWhite c then skipBlank false cs
    else if c = '#' then skipBlank true cs
    else c :: cs

namespace Modes

def skip (m : Modes) (cs : List Char) : List Char := if m.spaced then skipBlank false cs else cs

/-- Whether characters can be matched: the other case of a letter is known for ASCII alone. -/
def takesChars (m : Modes) : Bool := !(m.unicode && m.caseless)

def classHolds (m : Modes) (c : Char) : Bool :=
  m.takesChars && (m.unicode || c.toNat < 0x80)

def switch? (m : Modes) (on : Bool) (letter : Char) : Option Modes :=
  match letter with
  | 'u' => some { m with unicode := on }
  | 'i' => some { m with caseless := on }
  | 'x' => some { m with spaced := on }
  | 'm' | 's' | 'U' | 'R' => some m
  | _ => none

end Modes

/-- Reads mode letters up to the colon or bracket that ends them. None comes twice; those after a
minus are switched off. The letters before are `seen`, nearest first. -/
def modeLetters? (on : Bool) (seen : List Char) (m : Modes) :
    List Char → Option (Modes × List Char)
  | [] => none
  | c :: cs =>
    if c = ':' ∨ c = ')' then
      if seen.head? = some '-' then none else some (m, c :: cs)
    else if seen.contains c then none
    else if c = '-' then modeLetters? false (c :: seen) m cs
    else
      match m.switch? on c with
      | some m => modeLetters? on (c :: seen) m cs
      | none => none

inductive Escape where
  | char (c : Char)
  | members
  /-- A place between characters. -/
  | place
deriving DecidableEq, Inhabited

def hexDigits? (m : Modes) : Nat → List Char → Option (List Char × List Char)
  | 0, cs => some ([], cs)
  | n + 1, cs =>
    match m.skip cs with
    | [] => none
    | c :: cs =>
      if (Text.hexDigit? c).isSome then
        (hexDigits? m n cs).map fun (digits, rest) => (c :: digits, rest)
      else none

/-- Reads a code point of `width` digits. Two digits spell a byte where classes are of ASCII, and
then one that is a character. -/
def codePoint? (m : Modes) (width : Nat) (cs : List Char) : Option (Escape × List Char) := do
  let (digits, rest) ← hexDigits? m width cs
  let n ← Text.hexValue? digits
  if n.isValidChar && (m.unicode || width != 2 || n < 0x80) then some (.char (Char.ofNat n), rest)
  else none

def controlLetter? (c : Char) : Option Char :=
  match c with
  | 'a' => some '\x07'
  | 't' => some '\t'
  | 'n' => some '\n'
  | 'v' => some '\x0b'
  | 'f' => some '\x0c'
  | 'r' => some '\r'
  | _ => none

def isEscapable (c : Char) : Bool :=
  c.toNat < 0x80 && !c.isAlphanum && c != '<' && c != '>'

def escape? (m : Modes) (cs : List Char) : Option (Escape × List Char) :=
  match cs with
  | [] => none
  | c :: rest =>
    match Text.hexWidth? c, controlLetter? c with
    | some width, _ => codePoint? m width rest
    | none, some e => some (.char e, rest)
    | none, none =>
      if "dsw".toList.contains c then (if m.unicode then none else some (.members, rest))
      else if "bB<>".toList.contains c then (if m.unicode then none else some (.place, rest))
      else if "Az".toList.contains c then some (.place, rest)
      else if isEscapable c then some (.char c, rest)
      else none

def asciiClasses : List String :=
  ["alnum", "alpha", "ascii", "blank", "cntrl", "digit", "graph", "lower", "print", "punct",
   "space", "upper", "word", "xdigit"]

def namedClass? (cs : List Char) : Option (Bool × List Char) :=
  match cs with
  | ':' :: cs =>
    let negated := cs.head? = some '^'
    let (name, rest) := (if negated then cs.drop 1 else cs).span (· != ':')
    match rest with
    | ':' :: ']' :: rest =>
      if asciiClasses.contains (String.ofList name) then some (negated, rest) else none
    | _ => none
  | _ => none

structure OpenClass where
  /-- The height of what stands before the last operator, if there is one. -/
  before : Option Nat := none
  members : Tally := {}
deriving DecidableEq, Inhabited

namespace OpenClass

def add (k : OpenClass) (height : Nat) : OpenClass := { k with members := k.members.add height }

/-- The height of what the brackets hold. An operator stands over its two sides, and the last one
over all before it. -/
def content (k : OpenClass) : Nat :=
  match k.before with
  | none => k.members.whole
  | some height => max height k.members.whole + 1

def operate (k : OpenClass) : OpenClass := { before := some k.content }

end OpenClass

def member? (m : Modes) (cs : List Char) : Option (Escape × List Char) := do
  let (member, rest) ← match cs with
    | [] => none
    | c :: cs => if c = '\\' then escape? m cs else some (.char c, cs)
  match member with
  | .char c => if m.classHolds c then some (member, rest) else none
  | .members => some (member, rest)
  | .place => none

/-- The first character that counts after a minus. In a comment it is the first that is not blank,
and where nothing counts it is the next one. -/
def peek? (m : Modes) (cs : List Char) : Option Char :=
  if m.spaced then
    match cs.dropWhile Text.isWhite with
    | '#' :: comment => (comment.dropWhile Text.isWhite).head?.or cs.head?
    | rest => rest.head?.or cs.head?
  else cs.head?

/-- Reads a member of a class, or two characters with a minus between them, in order. -/
def range? (m : Modes) (cs : List Char) : Option (List Char) := do
  let (first, rest) ← member? m cs
  match m.skip rest with
  | [] => none
  | '-' :: after =>
    if peek? m after = some ']' ∨ peek? m after = some '-' then some ('-' :: after)
    else
      let (last, rest) ← member? m (m.skip after)
      match first, last with
      | .char a, .char b => if a ≤ b then some rest else none
      | _, _ => none
  | rest => some rest

/-- A text after its first character and blanks, of which something has to be left. -/
def afterFirst? (m : Modes) (cs : List Char) : Option (List Char) :=
  match m.skip (cs.drop 1) with
  | [] => none
  | rest => some rest

/-- Reads minuses that open a class, each of them a member. -/
def openingMinuses? (m : Modes) : Nat → OpenClass → List Char → Option (OpenClass × List Char)
  | 0, _, _ => none
  | fuel + 1, k, cs =>
    if cs.head? = some '-' then (afterFirst? m cs).bind (openingMinuses? m fuel (k.add 0))
    else some (k, cs)

/-- Reads the opening of a class from its bracket on: a negation, then minuses, or a closing
bracket, which stands for itself here. A class of ASCII cannot be negated. -/
def opening? (m : Modes) (cs : List Char) : Option (OpenClass × List Char) := do
  let start ← afterFirst? m cs
  let negated := start.head? = some '^'
  if negated && !m.unicode then none
  else
    let inside ← if negated then afterFirst? m start else some start
    if inside.head? = some '-' ∨ inside.head? = some ']' then
      if !m.takesChars then none
      else if inside.head? = some '-' then openingMinuses? m (cs.length + 1) {} inside
      else (afterFirst? m inside).map fun rest => (({} : OpenClass).add 0, rest)
    else some ({}, inside)

/-- Reads the members of a class and its closing bracket, inside further classes, and gives its
height. -/
def members? (m : Modes) : Nat → OpenClass → List OpenClass → List Char → Option (Nat × List Char)
  | 0, _, _, _ => none
  | fuel + 1, k, outer, cs =>
    match m.skip cs with
    | [] => none
    | '&' :: '&' :: rest | '-' :: '-' :: rest | '~' :: '~' :: rest =>
      members? m fuel k.operate outer rest
    | c :: rest =>
      if c = '[' then
        match namedClass? rest with
        | some (negated, rest) =>
          if !m.takesChars || (negated && !m.unicode) then none
          else members? m fuel (k.add 0) outer rest
        | none =>
          match opening? m (c :: rest) with
          | some (inner, rest) => members? m fuel inner (k :: outer) rest
          | none => none
      else if c = ']' then
        match outer with
        | [] => some (k.content + 1, rest)
        | around :: outer => members? m fuel (around.add (k.content + 1)) outer rest
      else (range? m (c :: rest)).bind (members? m fuel (k.add 0) outer)

/-- Reads a class from its bracket on and gives its height. Where characters cannot be matched a
class has no members of its own, but may still be empty or negate an empty one. -/
def class? (m : Modes) (cs : List Char) : Option (Nat × List Char) :=
  match opening? m cs with
  | some (k, rest) => members? m (cs.length + 1) k [] rest
  | none => none

def groupName? (cs : List Char) : Option (List Char × List Char) :=
  match cs.span (· != '>') with
  | (c :: name, _ :: rest) =>
    if (c = '_' || Text.alphabeticTable.has c) &&
        name.all (fun c => "_.[]".toList.contains c || Text.isAlphanumeric c) then
      some (c :: name, rest)
    else none
  | _ => none

structure Level where
  modes : Modes := {}
  items : Tally := {}
  /-- The height of the last item, if it can be repeated. -/
  last : Option Nat := none
  branches : Tally := {}
deriving DecidableEq, Inhabited

namespace Level

def add (l : Level) (height : Nat) : Level :=
  { l with items := l.items.add height, last := some height }

def repeat? (l : Level) : Option Level :=
  l.last.map fun height =>
    { l with items := ⟨l.items.size, max l.items.height (height + 1)⟩, last := some (height + 1) }

/-- Other modes from here on; they count as an item. -/
def setModes (l : Level) (modes : Modes) : Level :=
  { l with modes, items := l.items.add 0, last := none }

def allBranches (l : Level) : Tally := l.branches.add l.items.whole

def branch (l : Level) : Level := { modes := l.modes, branches := l.allBranches }

def height (l : Level) : Nat := l.allBranches.whole

end Level

structure State where
  level : Level := {}
  /-- The levels around each group that is open, innermost first. -/
  outer : List Level := []
  names : List (List Char) := []
deriving DecidableEq, Inhabited

namespace State

def enter (s : State) (modes : Modes) : State :=
  { s with level := { modes }, outer := s.level :: s.outer }

def add (s : State) (height : Nat) : State := { s with level := s.level.add height }

/-- The state inside a named group; names are not given twice. -/
def named? (s : State) (cs : List Char) : Option (State × List Char) := do
  let (name, rest) ← groupName? cs
  if s.names.contains name then none
  else some ({ s.enter s.level.modes with names := name :: s.names }, rest)

def modal? (s : State) (cs : List Char) : Option (State × List Char) := do
  if cs.head? = some ')' then none
  else
    let (modes, rest) ← modeLetters? true [] s.level.modes cs
    if rest.head? = some ':' then some (s.enter modes, rest.drop 1)
    else some ({ s with level := s.level.setModes modes }, rest.drop 1)

/-- Opens a group after its bracket. There is no looking around. -/
def open? (s : State) (cs : List Char) : Option (State × List Char) :=
  match s.level.modes.skip cs with
  | '?' :: '=' :: _ | '?' :: '!' :: _ => none
  | '?' :: '<' :: '=' :: _ | '?' :: '<' :: '!' :: _ => none
  | '?' :: 'P' :: '<' :: rest | '?' :: '<' :: rest => s.named? rest
  | '?' :: rest => s.modal? rest
  | rest => some (s.enter s.level.modes, rest)

def close? (s : State) : Option State :=
  match s.outer with
  | [] => none
  | level :: outer => some { s with level := level.add (s.level.height + 1), outer }

/-- Reads one character of a pattern with what belongs to it. Counted repetitions are left out:
the brace that closes them would close the field. -/
def step? (s : State) (cs : List Char) : Option (State × List Char) :=
  let m := s.level.modes
  match cs with
  | [] => none
  | c :: rest =>
    match c with
    | '(' => s.open? rest
    | ')' => s.close?.map fun s => (s, rest)
    | '|' => some ({ s with level := s.level.branch }, rest)
    | '[' => (class? m cs).map fun (height, rest) => (s.add height, rest)
    | '\x7b' => none
    | '?' | '*' | '+' =>
      s.level.repeat?.map fun level =>
        ({ s with level }, if rest.head? = some '?' then rest.drop 1 else rest)
    | '.' => if m.unicode then some (s.add 0, rest) else none
    | '^' | '$' => some (s.add 0, rest)
    | '\\' =>
      match escape? m rest with
      | some (.char _, rest) => if m.takesChars then some (s.add 0, rest) else none
      | some (_, rest) => some (s.add 0, rest)
      | none => none
    | _ => if m.takesChars then some (s.add 0, rest) else none

/-- Whether what is left of a pattern completes it. It has fewer characters than `fuel`. -/
def completes : Nat → State → List Char → Bool
  | 0, _, _ => false
  | fuel + 1, s, cs =>
    match s.level.modes.skip cs with
    | [] => s.outer.isEmpty && s.level.height ≤ heightLimit
    | c :: rest =>
      match s.step? (c :: rest) with
      | some (s, rest) => completes fuel s rest
      | none => false

end State

def isPattern (cs : List Char) : Bool := State.completes (cs.length + 1) {} cs

def isExponent (cs : List Char) : Bool :=
  match cs with
  | [] => true
  | c :: cs =>
    let digits := if cs.head? = some '+' || cs.head? = some '-' then cs.drop 1 else cs
    (c == 'e' || c == 'E') && !digits.isEmpty && digits.all Char.isDigit

def isUnsigned (cs : List Char) : Bool :=
  let (whole, rest) := cs.span Char.isDigit
  let (fraction, rest) := if rest.head? = some '.' then (rest.drop 1).span Char.isDigit
    else ([], rest)
  !(whole.isEmpty && fraction.isEmpty) && isExponent rest

/-- Whether a text is a number with a plus sign. Other numbers are patterns as they stand. -/
def isPlusNumber (cs : List Char) : Bool :=
  match cs with
  | '+' :: cs =>
    isUnsigned cs ||
      ["inf", "infinity", "nan"].contains (Text.asciiLowercase (String.ofList cs))
  | _ => false

def isValue (cs : List Char) : Bool := isPlusNumber cs || isPattern cs

end ContextualQuery.Pattern
