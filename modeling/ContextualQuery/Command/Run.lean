import ContextualQuery.Command.Invocation
import ContextualQuery.Command.Log
import ContextualQuery.Fq.Reader
import ContextualQuery.Query.Parser
import ContextualQuery.Settings.Basic
import ContextualQuery.Settings.Discovery
import ContextualQuery.Text.Basic

/-!
# Running commands

What a command prints, logs and exits with, given its surroundings. Settings are loaded first, and
nothing is done if they cannot be. Checking makes a report that has an entry for each query: its
canonical text, or why it cannot be read.
-/
namespace ContextualQuery

/-- The result of checking one query: its canonical text, or an error. -/
structure CheckEntry where
  query : String
  result : Except QueryError String

namespace CheckEntry

def ofQuery (choice : ServerChoice) (query : String) : CheckEntry :=
  { query, result := (Node.parse query choice).map Node.toCql }

def isValid (e : CheckEntry) : Bool := e.result.isOk

/-- A member that is left out if it has no value. -/
def member? (key : String) (value : Option String) : List (String × Json) :=
  value.toList.map fun s => (key, .string s)

def errorJson (e : QueryError) : Json :=
  .object ([("kind", .string e.kind.code), ("message", .string e.message),
    ("position", .ofNat e.position)] ++ member? "token" e.token ++
    member? "suggestion" e.suggestion)

def toJson (e : CheckEntry) : Json :=
  .object ([("query", .string e.query), ("valid", .bool e.isValid),
    match e.result with
    | .ok canonical => ("canonical", .string canonical)
    | .error err => ("error", errorJson err)])

end CheckEntry

structure CheckReport where
  entries : List CheckEntry

namespace CheckReport

def ofQueries (choice : ServerChoice) (queries : List String) : CheckReport :=
  ⟨queries.map (CheckEntry.ofQuery choice)⟩

def total (r : CheckReport) : Nat := r.entries.length

def failed (r : CheckReport) : Nat := r.entries.countP (!·.isValid)

def toJson (r : CheckReport) : Json := .object [
  ("total", .ofNat r.total), ("failed", .ofNat r.failed),
  ("queries", .array (r.entries.map CheckEntry.toJson))]

end CheckReport

/-- What a command gives away, piece by piece. -/
inductive Emission where
  | out (text : String)
  | err (text : String)
  | log (event : LogEvent)
deriving DecidableEq, Inhabited

namespace Emission

def onOutput : Emission → String
  | .out text => text
  | .err _ | .log _ => ""

/-- What goes to the standard error, where the log is kept too. -/
def onError (filter : LogFilter) : Emission → String
  | .out _ => ""
  | .err text => text
  | .log event => if filter.admits event then event.line else ""

end Emission

structure Outcome where
  succeeded : Bool
  emissions : List Emission
deriving DecidableEq, Inhabited

namespace Outcome

def exit (o : Outcome) : Nat := if o.succeeded then 0 else 1

def output (o : Outcome) : String := String.join (o.emissions.map Emission.onOutput)

def errors (filter : LogFilter) (o : Outcome) : String :=
  String.join (o.emissions.map (Emission.onError filter))

/-- The outcome after some emissions. -/
def after (emissions : List Emission) (o : Outcome) : Outcome :=
  { o with emissions := emissions ++ o.emissions }

def failure (message : String) : Outcome := ⟨false, [.err ("error: " ++ message ++ "\n")]⟩

end Outcome

structure Surroundings where
  cwd : String
  home : Option String
  tree : FileTree
  input : FileEntry
  logging : Option String := none

def ChoiceOptions.over (o : ChoiceOptions) (choice : ServerChoice) : ServerChoice :=
  { field := o.field.getD choice.field, relation := o.relation.getD choice.relation }

namespace Command

def debug (target message : String) (fields : List (String × String)) : Emission :=
  .log { level := .debug, target, message, fields }

/-- A rendered query with one line feed at its end. -/
def rendered (text : String) : Emission := .out (Text.trimNewlines text ++ "\n")

def complaint (e : QueryError) : Emission := .err ("error: " ++ Text.trimEnd e.display ++ "\n")

def contextTarget : String := "cql::cli::context"

/-- Tells where settings are looked for. -/
def searchNote (explicit : Option String) (cwd : String) : Emission :=
  match explicit with
  | some path => debug contextTarget "using explicit config file" [("path", path)]
  | none => debug contextTarget "discovering config files" [("cwd", cwd)]

def sourceNotes (sources : List String) : List Emission :=
  if sources.isEmpty then [debug contextTarget "no config files found, using defaults" []]
  else sources.map fun path =>
    .log { level := .info, target := contextTarget, message := "loaded config"
           fields := [("path", path)] }

/-- Loads the settings from an explicit file, or from those that apply in the working directory. -/
def loadSettings (explicit : Option String) (s : Surroundings) : Except SettingsError Settings :=
  match explicit with
  | some path => Settings.loadFiles s.tree [path]
  | none => Settings.load s.tree s.home s.cwd

/-- Prints queries one after another, up to the first that cannot be read. -/
def runParse (output : OutputSettings) (choice : ServerChoice) : List String → Outcome
  | [] => ⟨true, []⟩
  | query :: rest =>
    let note := debug "cql::cli::commands::parse" "parsing query"
      [("query", query), ("format", output.format.name)]
    match Node.parse query choice with
    | .ok n => (runParse output choice rest).after [note, rendered (output.render n)]
    | .error e => ⟨false, [note, complaint e]⟩

def fqTarget : String := "cql::cli::commands::fq"

/-- The text of an FQ query, from the standard input, a file, or the argument itself, and the note
of where it is read from. -/
def fqInput (input : Option String) (s : Surroundings) :
    List Emission × Except ReadFault String :=
  match input with
  | none | some "-" => ([debug fqTarget "reading FQ from stdin" []], s.input.read)
  | some argument =>
    if (s.tree argument).isFile then
      ([debug fqTarget "reading FQ from file" [("path", argument)]], (s.tree argument).read)
    else ([], .ok argument)

def runFq (output : OutputSettings) (choice : ServerChoice) (input : Option String)
    (s : Surroundings) : Outcome :=
  let (notes, text) := fqInput input s
  let result : Outcome := match text with
    | .error fault => .failure ("failed to read FQ input: " ++ fault.message)
    | .ok text =>
      match Node.ofFq text choice with
      | .ok n => ⟨true, [rendered (output.render n)]⟩
      | .error e => ⟨false, [complaint e]⟩
  result.after notes

/-- What is said while a query is checked. Errors are shown unless the report is for machines. -/
def checkNotes (json : Bool) (entry : CheckEntry) : List Emission :=
  let note := debug "cql::cli::commands::check" "checked query"
    [("query", entry.query), ("valid", if entry.isValid then "true" else "false")]
  match entry.result with
  | .error e => if json then [note] else [note, complaint e]
  | .ok _ => [note]

def verdict (json : Bool) (report : CheckReport) : Emission :=
  if json then .out (report.toJson.indented 0 ++ "\n")
  else if report.failed = 0 then .out ("ok: " ++ toString report.total ++ " queries valid\n")
  else .err (toString report.failed ++ " of " ++ toString report.total ++ " queries invalid\n")

def runCheck (choice : ServerChoice) (queries : List String) (json : Bool) : Outcome :=
  let report := CheckReport.ofQueries choice queries
  { succeeded := report.failed = 0
    emissions := report.entries.flatMap (checkNotes json) ++ [verdict json report] }

def runConfig (settings : Settings) : Outcome :=
  ⟨true, settings.sources.map (fun path => .out ("# " ++ path ++ "\n")) ++
    [.out settings.toToml]⟩

def run (settings : Settings) (s : Surroundings) : Command → Outcome
  | .parse queries format choice =>
    runParse (settings.output.withFormat format) (choice.over settings.choice) queries
  | .fq input format choice =>
    runFq (settings.output.withFormat format) (choice.over settings.choice) input s
  | .check queries json choice => runCheck (choice.over settings.choice) queries json
  | .config => runConfig settings

end Command

namespace Invocation

def run (i : Invocation) (s : Surroundings) : Outcome :=
  let result : Outcome := match Command.loadSettings i.config s with
    | .error e => .failure ("failed to load configuration: " ++ e.message)
    | .ok settings => (i.command.run settings s).after (Command.sourceNotes settings.sources)
  result.after [Command.searchNote i.config s.cwd]

def logFilter (i : Invocation) (s : Surroundings) : LogFilter :=
  LogFilter.choose s.logging i.verbose

/-- The paths whose files the command may look at. -/
def paths (i : Invocation) (cwd : String) (home : Option String) : List String :=
  let settings := match i.config with
    | some path => [path]
    | none => Settings.candidates cwd ++ (home.map Settings.globalPath).toList
  match i.command with
  | .fq (some argument) _ _ => argument :: settings
  | _ => settings

end Invocation
end ContextualQuery
