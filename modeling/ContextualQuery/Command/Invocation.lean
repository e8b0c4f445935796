import ContextualQuery.Settings.Basic

/-!
# Command-line arguments

What the program is asked to do. Arguments are read from left to right. An option whose value is
the next argument takes effect only once the argument after that is looked at, so that an unknown
option is reported before a value that is not acceptable.
-/
namespace ContextualQuery

structure ChoiceOptions where
  field : Option String := none
  relation : Option String := none
deriving DecidableEq, Inhabited

inductive Command where
  | parse (queries : List String) (format : Option OutputFormat) (choice : ChoiceOptions)
  | fq (input : Option String) (format : Option OutputFormat) (choice : ChoiceOptions)
  | check (queries : List String) (json : Bool) (choice : ChoiceOptions)
  | config
deriving DecidableEq, Inhabited

structure Invocation where
  verbose : Nat
  config : Option String
  command : Command
deriving DecidableEq, Inhabited

inductive UsageError where
  | helpAsked
  | nothingAsked
  | missingSubcommand
  | unknownSubcommand
  | missingArgument
  | unknownArgument
  | missingValue
  | invalidValue
  | needlessValue
  | repeatedOption
deriving DecidableEq, Inhabited

/-- The exit code that goes with an error: asking for help is not one. -/
def UsageError.exit : UsageError → Nat
  | .helpAsked => 0
  | _ => 2

namespace Invocation

inductive Scope where
  | top
  | parse
  | fq
  | check
  | config
deriving DecidableEq, Inhabited

inductive Opt where
  | verbose
  | config
  | help
  | format
  | field
  | relation
  | json
deriving DecidableEq, Inhabited

def Opt.long : Opt → String
  | .verbose => "verbose"
  | .config => "config"
  | .help => "help"
  | .format => "format"
  | .field => "field"
  | .relation => "relation"
  | .json => "json"

def Opt.short? : Opt → Option Char
  | .verbose => some 'v'
  | .help => some 'h'
  | .format => some 'f'
  | .config | .field | .relation | .json => none

def Opt.takesValue : Opt → Bool
  | .config | .format | .field | .relation => true
  | .verbose | .help | .json => false

def Scope.options : Scope → List Opt
  | .top | .config => [.verbose, .config, .help]
  | .parse | .fq => [.verbose, .config, .help, .format, .field, .relation]
  | .check => [.verbose, .config, .help, .json, .field, .relation]

/-- The most arguments that a scope takes beside its options, if there is a limit. -/
def Scope.maxArguments : Scope → Option Nat
  | .top | .config => some 0
  | .fq => some 1
  | .parse | .check => none

def commandNames : List (String × Scope) :=
  [("parse", .parse), ("fq", .fq), ("check", .check), ("config", .config)]

def helpName : String := "help"

structure Reading where
  verbose : Option Nat := none
  config : Option String := none
  format : Option OutputFormat := none
  choice : ChoiceOptions := {}
  json : Bool := false
  arguments : List String := []
  /-- The last option with a value of its own argument, and that value once it was seen. -/
  pending : Option (Opt × Option String) := none
deriving DecidableEq, Inhabited

namespace Reading

def maxVerbose : Nat := 255

/-- A setting given for the first time. -/
def once {α : Type} (before : Option α) (value : Except UsageError α) :
    Except UsageError (Option α) :=
  if before.isSome then .error .repeatedOption else value.map some

def path (value : String) : Except UsageError String :=
  if value.isEmpty then .error .missingValue else .ok value

def formatOf (value : String) : Except UsageError OutputFormat :=
  match OutputFormat.ofWord? value with
  | some format => .ok format
  | none => .error .invalidValue

def give (r : Reading) (opt : Opt) (value : String) : Except UsageError Reading := do
  match opt with
  | .config => return { r with config := ← once r.config (path value) }
  | .format => return { r with format := ← once r.format (formatOf value) }
  | .field =>
    return { r with choice := { r.choice with field := ← once r.choice.field (.ok value) } }
  | .relation =>
    return { r with choice := { r.choice with relation := ← once r.choice.relation (.ok value) } }
  | .verbose | .help | .json => return r

/-- Lets the last option with a value take effect. -/
def settle (r : Reading) : Except UsageError Reading :=
  match r.pending with
  | none => .ok r
  | some (_, none) => .error .missingValue
  | some (opt, some value) => { r with pending := none }.give opt value

def raise (r : Reading) (opt : Opt) : Except UsageError Reading := do
  let r ← r.settle
  match opt with
  | .verbose => return { r with verbose := some (min maxVerbose (r.verbose.getD 0 + 1)) }
  | .help => .error .helpAsked
  | .json => if r.json then .error .repeatedOption else return { r with json := true }
  | .config | .format | .field | .relation => return r

def meet (r : Reading) (opt : Opt) (attached : Option String) : Except UsageError Reading :=
  if opt.takesValue then do
    let r ← r.settle
    match attached with
    | some value => r.give opt value
    | none => return { r with pending := some (opt, none) }
  else r.raise opt

def long (scope : Scope) (r : Reading) (body : List Char) : Except UsageError Reading :=
  let (name, value) := body.span (· != '=')
  let attached := if value.isEmpty then none else some (String.ofList (value.drop 1))
  match scope.options.find? (·.long.toList == name) with
  | none => .error .unknownArgument
  | some opt =>
    if attached.isSome && !opt.takesValue then .error .needlessValue else r.meet opt attached

def clusterValue : List Char → Option String
  | [] => none
  | '=' :: cs => some (String.ofList cs)
  | cs => some (String.ofList cs)

/-- Meets a cluster of letters. The first option that takes a value ends it. -/
def cluster (scope : Scope) (r : Reading) : List Char → Except UsageError Reading
  | [] => .ok r
  | c :: cs =>
    match scope.options.find? (·.short? == some c) with
    | none => .error .unknownArgument
    | some opt =>
      if opt.takesValue then r.meet opt (clusterValue cs)
      else do cluster scope (← r.raise opt) cs

def take (scope : Scope) (r : Reading) (argument : String) : Except UsageError Reading :=
  if scope.maxArguments.any (· ≤ r.arguments.length) then .error .unknownArgument
  else do
    let r ← r.settle
    return { r with arguments := r.arguments ++ [argument] }

end Reading

inductive Shape where
  /-- Two hyphens, after which no options come. -/
  | separator
  | long (body : List Char)
  | cluster (letters : List Char)
  | plain

/-- The kind of an argument. A hyphen alone is no option. -/
def shapeOf (argument : String) : Shape :=
  match argument.toList with
  | ['-', '-'] => .separator
  | '-' :: '-' :: body => .long body
  | '-' :: c :: letters => .cluster (c :: letters)
  | _ => .plain

/-- Reads the arguments after the name of a command. -/
def readScope (scope : Scope) (r : Reading) : List String → Except UsageError Reading
  | [] => r.settle
  | argument :: rest =>
    match shapeOf argument with
    | .separator => do (← rest.foldlM (Reading.take scope) r).settle
    | .long body => do readScope scope (← r.long scope body) rest
    | .cluster letters => do readScope scope (← r.cluster scope letters) rest
    | .plain =>
      match r.pending with
      | some (opt, none) => readScope scope { r with pending := some (opt, some argument) } rest
      | _ => do readScope scope (← r.take scope argument) rest

def commandOf (scope : Scope) (r : Reading) : Except UsageError Command :=
  match scope with
  | .parse =>
    if r.arguments.isEmpty then .error .missingArgument
    else .ok (.parse r.arguments r.format r.choice)
  | .fq => .ok (.fq r.arguments.head? r.format r.choice)
  | .check =>
    if r.arguments.isEmpty then .error .missingArgument
    else .ok (.check r.arguments r.json r.choice)
  | .config => .ok .config
  | .top => .error .missingSubcommand

/-- Reads a command after its name. What was read before the name settles last, and gives way to
what comes after it. -/
def readCommand (scope : Scope) (top : Reading) (rest : List String) :
    Except UsageError Invocation := do
  let inner ← readScope scope {} rest
  let command ← commandOf scope inner
  let top ← top.settle
  return {
    verbose := (inner.verbose <|> top.verbose).getD 0
    config := inner.config <|> top.config
    command }

def help (names : List String) : UsageError :=
  match names with
  | [] => .helpAsked
  | [name] =>
    if name = helpName || (commandNames.lookup name).isSome then .helpAsked
    else .unknownSubcommand
  | _ => .unknownSubcommand

/-- What an argument in place of a command's name comes to after two hyphens. -/
def misplaced (argument : String) : UsageError :=
  if argument = helpName || (commandNames.lookup argument).isSome then .unknownArgument
  else .unknownSubcommand

def withoutCommand (r : Reading) : Except UsageError Invocation := do
  let r ← r.settle
  if r.verbose.isNone && r.config.isNone then .error .nothingAsked else .error .missingSubcommand

/-- Reads arguments up to the name of a command, and then the command. -/
def readTop (r : Reading) : List String → Except UsageError Invocation
  | [] => withoutCommand r
  | argument :: rest =>
    match shapeOf argument with
    | .separator =>
      match rest with
      | [] => withoutCommand r
      | next :: _ => .error (misplaced next)
    | .long body => do readTop (← r.long .top body) rest
    | .cluster letters => do readTop (← r.cluster .top letters) rest
    | .plain =>
      match r.pending with
      | some (opt, none) => readTop { r with pending := some (opt, some argument) } rest
      | _ =>
        if argument = helpName then .error (help rest)
        else match commandNames.lookup argument with
          | some scope => readCommand scope r rest
          | none => .error .unknownSubcommand

def ofArguments (arguments : List String) : Except UsageError Invocation :=
  readTop {} arguments

end Invocation
end ContextualQuery
