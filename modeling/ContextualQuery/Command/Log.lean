import ContextualQuery.Command.Pattern
import ContextualQuery.Text.Basic
import ContextualQuery.Text.Lowercase
import ContextualQuery.Text.NameTable

/-!
# Logging

Events have a level, a target that names the part of the program they come from, and fields. A
filter is a list of rules; of the rules that cover an event the most specific one decides, and an
event that no rule covers is not logged.
-/
namespace ContextualQuery

/-- How much an event matters, most first. -/
inductive LogLevel where
  | error
  | warn
  | info
  | debug
  | trace
deriving DecidableEq, Inhabited

namespace LogLevel

def rank : LogLevel → Nat
  | .error => 1
  | .warn => 2
  | .info => 3
  | .debug => 4
  | .trace => 5

def all : List LogLevel := [.error, .warn, .info, .debug, .trace]

def name : LogLevel → String
  | .error => "error"
  | .warn => "warn"
  | .info => "info"
  | .debug => "debug"
  | .trace => "trace"

def label : LogLevel → String
  | .error => "ERROR"
  | .warn => " WARN"
  | .info => " INFO"
  | .debug => "DEBUG"
  | .trace => "TRACE"

/-- The least important level that is logged when `-v` is given `count` times. -/
def ofVerbosity : Nat → LogLevel
  | 0 => .warn
  | 1 => .info
  | 2 => .debug
  | _ => .trace

end LogLevel

structure LogEvent where
  level : LogLevel
  target : String
  message : String
  fields : List (String × String) := []
deriving DecidableEq, Inhabited

namespace LogEvent

def line (e : LogEvent) : String :=
  e.level.label ++ " " ++ e.target ++ ": " ++ e.message ++
    String.join (e.fields.map fun (name, value) => " " ++ name ++ "=" ++ value) ++ "\n"

/-- The names of an event's fields; the message is one of them. -/
def fieldNames (e : LogEvent) : List String := "message" :: e.fields.map (·.1)

end LogEvent

structure LogRule where
  /-- What the target starts with. -/
  target : Option String := none
  field : Option String := none
  /-- The least important level that is logged, if any is. -/
  threshold : Option LogLevel
deriving DecidableEq, Inhabited

namespace LogRule

def covers (r : LogRule) (e : LogEvent) : Bool :=
  r.target.all (·.toList.isPrefixOf e.target.toList) && r.field.all (e.fieldNames.contains ·)

def allows (r : LogRule) (level : LogLevel) : Bool := r.threshold.any (level.rank ≤ ·.rank)

/-- How specific a rule is: the length of its target first, then whether it names a field. -/
def weight (r : LogRule) : Nat × Nat :=
  ((r.target.map (·.length + 1)).getD 0, if r.field.isSome then 1 else 0)

/-- Whether a rule gives way to a later one: to a more specific one, and of two as specific to the
one with the greater field. -/
def yields (r later : LogRule) : Bool :=
  let (a, b) := (r.weight, later.weight)
  decide (a.1 < b.1) || (a.1 == b.1 && (decide (a.2 < b.2) ||
    (a.2 == b.2 && decide (r.field.getD "" ≤ later.field.getD ""))))

end LogRule

abbrev LogFilter := List LogRule

namespace LogFilter

def ruleFor? (filter : LogFilter) (e : LogEvent) : Option LogRule :=
  (filter.filter (·.covers e)).foldl (fun best r =>
    match best with
    | none => some r
    | some b => if b.yields r then some r else some b) none

def admits (filter : LogFilter) (e : LogEvent) : Bool := (filter.ruleFor? e).any (·.allows e.level)

def upTo (level : LogLevel) : LogFilter := [{ threshold := some level }]

/-- The threshold that a text spells: a number from `0` to `5`, or a name, ASCII case apart. -/
def threshold? (text : List Char) : Option (Option LogLevel) :=
  let digits := if text.head? = some '+' then text.drop 1 else text
  if !digits.isEmpty && digits.all Char.isDigit then
    match digits.foldl (fun n d => n * 10 + (d.toNat - '0'.toNat)) 0 with
    | 0 => some none
    | n => (LogLevel.all.find? (·.rank == n)).map some
  else match Text.asciiLowercase (String.ofList text) with
    | "off" => some none
    | word => (LogLevel.all.find? (·.name == word)).map some

def startsName (c : Char) : Bool :=
  c = '-' || c = ':' || c = '_' || Text.isAlphanumeric c

/-- The byte where a text stands that is left of `form`. -/
def placeIn (form rest : List Char) : Nat := Text.byteSize form - Text.byteSize rest

def cutFrom (cs : List Char) (start : Nat) : List Char := cs.drop (Text.column cs start)

def cut (cs : List Char) (start stop : Nat) : List Char :=
  cutFrom (cs.take (Text.column cs stop)) start

/-- The value that a field in braces has to have, up to a second equals sign. -/
def fieldValue? (field : List Char) : Option (List Char) :=
  match field.dropWhile (· != '=') with
  | [] => none
  | _ :: value => some (value.takeWhile (· != '='))

/-- The threshold after an equals sign; without one everything is logged. -/
def thresholdAfter? (text : List Char) : Option (Option LogLevel) :=
  if text.isEmpty then some (some .trace) else threshold? text

/-- What a directive of several parts sets. A rule about spans of work concerns no event. -/
inductive Directive where
  | rule (rule : LogRule)
  | spans
deriving DecidableEq, Inhabited

/-- The end of a directive: nothing, or an equals sign and a threshold. -/
def ending? (raw form rest : List Char) : Option (Option LogLevel) :=
  match rest with
  | [] => some (some .trace)
  | '=' :: level => thresholdAfter? (cutFrom raw (placeIn form level))
  | _ => none

/-- The directive with a bracket, after which `name` is left: the name of a span, and a field in
braces. -/
def bracket? (raw form : List Char) (target : Option String) (name : List Char) :
    Option Directive :=
  match name.dropWhile fun c => c != ']' && c != '\x7b' with
  | ']' :: rest => (ending? raw form rest).map fun _ => .spans
  | '\x7b' :: inside =>
    let after := inside.dropWhile (· != '\x7d')
    let field := cut raw (placeIn form inside) (placeIn form after)
    match after with
    | '\x7d' :: ']' :: rest =>
      if field.isEmpty || (fieldValue? field).any (!Pattern.isValue ·) then none
      else (ending? raw form rest).map fun threshold =>
        if name.head? = some '\x7b' && (fieldValue? field).isNone then
          .rule { target, field := some (String.ofList field), threshold }
        else .spans
    | _ => none
  | _ => none

/-- One directive. Blanks around it do not count for its form, but its parts are cut out of the
text with the blanks, at the bytes where they stand without. -/
def directive? (raw : List Char) : Option Directive :=
  let form := Text.dropEndWhile Text.isWhite (raw.dropWhile Text.isWhite)
  match form with
  | [] => none
  | '[' :: name => bracket? raw form none name
  | c :: _ =>
    if !startsName c then none
    else
      let rest := form.dropWhile fun c => c != '=' && c != '['
      let target := some (String.ofList (cut raw 0 (placeIn form rest)))
      match rest with
      | '=' :: level =>
        (thresholdAfter? (cutFrom raw (placeIn form level))).map fun threshold =>
          .rule { target, threshold }
      | _ :: name => bracket? raw form target name
      | [] =>
        match threshold? raw with
        | some threshold => some (.rule { threshold })
        | none => some (.rule { target := some (String.ofList raw), threshold := some .trace })

/-- The filter that a text spells: directives with commas between them. Without a directive only
errors are logged. -/
def parse? (text : String) : Option LogFilter := do
  let directives ← ((Text.pieces ',' text.toList).filter (!·.isEmpty)).mapM directive?
  if directives.isEmpty then return upTo .error
  return directives.filterMap fun
    | .rule r => some r
    | .spans => none

/-- The filter in effect: the one that is set, if it can be read, or else that of the verbosity. -/
def choose (setting : Option String) (verbosity : Nat) : LogFilter :=
  (setting.bind parse?).getD (upTo (.ofVerbosity verbosity))

end LogFilter
end ContextualQuery
