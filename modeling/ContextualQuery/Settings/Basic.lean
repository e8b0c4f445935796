import ContextualQuery.Fq.Writer
import ContextualQuery.Query.Canonical
import ContextualQuery.Query.Xcql
import ContextualQuery.Text.Lowercase
import ContextualQuery.Toml.Writer

namespace ContextualQuery

inductive OutputFormat where
  | xcql
  | fq
  | cql
deriving DecidableEq, Inhabited

namespace OutputFormat

def name : OutputFormat → String
  | .xcql => "xcql"
  | .fq => "fq"
  | .cql => "cql"

def all : List OutputFormat := [.xcql, .fq, .cql]

def ofName? (name : String) : Option OutputFormat := all.find? (·.name == name)

/-- The format that a word stands for, ASCII case apart: its name, or that of its notation. -/
def ofWord? (word : String) : Option OutputFormat :=
  match Text.asciiLowercase word with
  | "xcql" | "xml" => some .xcql
  | "fq" | "json" => some .fq
  | "cql" => some .cql
  | _ => none

def unknownMessage (word : String) : String :=
  "unknown format '" ++ word ++ "', expected one of: xcql, fq, cql"

end OutputFormat

structure OutputSettings where
  format : OutputFormat := .cql
  /-- What indents a line of FQ once. -/
  indent : String := "  "
  /-- What ends a line of FQ. -/
  newline : String := "\n"
  /-- What indents a line of XCQL once. -/
  xmlIndent : Char := ' '
deriving DecidableEq, Inhabited

namespace OutputSettings

def withFormat (s : OutputSettings) (format : Option OutputFormat) : OutputSettings :=
  { s with format := format.getD s.format }

def render (s : OutputSettings) (n : Node) : String :=
  match s.format with
  | .xcql => n.toXcql s.xmlIndent
  | .fq => n.toFq ⟨s.indent, s.newline⟩
  | .cql => n.toCql

end OutputSettings

/-- The settings in effect and the files they were read from, closest first. -/
structure Settings where
  choice : ServerChoice := {}
  output : OutputSettings := {}
  sources : List String := []
deriving DecidableEq, Inhabited

/-- The settings as a document that sets every one of them. -/
def Settings.toToml (s : Settings) : String :=
  "[parser]\n" ++
    Toml.assignmentText "server_choice_field" s.choice.field ++
    Toml.assignmentText "server_choice_relation" s.choice.relation ++
    "\n[output]\n" ++
    Toml.assignmentText "format" s.output.format.name ++
    Toml.assignmentText "indent" s.output.indent ++
    Toml.assignmentText "newline" s.output.newline ++
    Toml.assignmentText "xml_indent_char" (String.ofList [s.output.xmlIndent])

end ContextualQuery
