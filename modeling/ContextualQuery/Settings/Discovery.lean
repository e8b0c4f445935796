import ContextualQuery.FileTree
import ContextualQuery.Settings.File
import ContextualQuery.Text.Basic

/-!
# Finding and merging settings files

Settings files are looked for in the working directory and every directory above it, up to one that
says it is a root. Without a root, the file in the home directory comes last. So files are listed
closest first: each setting is taken from the first file that sets it, and a setting that is not
acceptable is an error even in a file that another one overrides.
-/
namespace ContextualQuery

inductive SettingsError where
  | unreadable (path : String) (fault : ReadFault)
  | malformed (path text : String) (fault : SettingsFile.Fault)
  | invalid (path key detail : String)
deriving DecidableEq, Inhabited

def SettingsError.message : SettingsError → String
  | .unreadable path fault => "failed to read config file " ++ path ++ ": " ++ fault.message
  | .malformed path text fault =>
    "failed to parse config file " ++ path ++ ": " ++ fault.display text
  | .invalid path key detail => "invalid setting " ++ key ++ " in " ++ path ++ ": " ++ detail

structure LocatedFile where
  path : String
  file : SettingsFile
deriving DecidableEq, Inhabited

namespace LocatedFile

def ofText (path text : String) : Except SettingsError LocatedFile :=
  match SettingsFile.parse text with
  | .error fault => .error (.malformed path text fault)
  | .ok file => .ok ⟨path, file⟩

def nonBlank (path key value : String) : Except SettingsError String :=
  if Text.isBlankText value then .error (.invalid path key "value cannot be empty")
  else .ok value

def oneChar (path key value : String) : Except SettingsError Char :=
  match value.toList with
  | [c] => .ok c
  | _ =>
    .error (.invalid path key ("expected exactly one character, got " ++ Text.visible value))

/-- A setting checked by `check` if the file has it, else the one from before. -/
def setting {α β : Type} (before : β) (value : Option α) (check : α → Except SettingsError β) :
    Except SettingsError β :=
  match value with
  | none => .ok before
  | some v => check v

def overlayChoice (path : String) (s : ParserSection) (choice : ServerChoice) :
    Except SettingsError ServerChoice := do
  let field ← setting choice.field s.field (nonBlank path "parser.server_choice_field")
  let relation ← setting choice.relation s.relation (nonBlank path "parser.server_choice_relation")
  return { field, relation }

def overlayOutput (path : String) (s : OutputSection) (output : OutputSettings) :
    Except SettingsError OutputSettings := do
  let xmlIndent ← setting output.xmlIndent s.xmlIndent (oneChar path "output.xml_indent_char")
  return {
    format := s.format.getD output.format
    indent := s.indent.getD output.indent
    newline := s.newline.getD output.newline
    xmlIndent }

/-- The settings with what a file sets. -/
def overlay (settings : Settings) (located : LocatedFile) : Except SettingsError Settings := do
  let choice ← overlayChoice located.path (located.file.parser.getD {}) settings.choice
  let output ← overlayOutput located.path (located.file.output.getD {}) settings.output
  return { settings with choice, output }

end LocatedFile

namespace Settings

/-- The settings of files listed closest first: from the farthest on, each overrides the ones
before. -/
def merge (files : List LocatedFile) : Except SettingsError Settings := do
  let settings ← files.reverse.foldlM LocatedFile.overlay {}
  return { settings with sources := files.map (·.path) }

def readFile (tree : FileTree) (path : String) : Except SettingsError LocatedFile :=
  match (tree path).read with
  | .error fault => .error (.unreadable path fault)
  | .ok text => LocatedFile.ofText path text

/-- The settings of the files at paths listed closest first. -/
def loadFiles (tree : FileTree) (paths : List String) : Except SettingsError Settings := do
  merge (← paths.mapM (readFile tree))

def fileName : String := ".cql.toml"

/-- The paths where settings files are looked for, closest first. -/
def candidates (cwd : String) : List String := (Path.ancestors cwd).map (Path.join · fileName)

def globalPath (home : String) : String := Path.join home fileName

/-- Whether the file at a path can be read and says it is a root. -/
def isRoot (tree : FileTree) (path : String) : Bool :=
  match readFile tree path with
  | .ok located => located.file.root == some true
  | .error _ => false

/-- The files among some paths up to the first root, and whether there is one. -/
def filesUpToRoot (tree : FileTree) : List String → List String × Bool
  | [] => ([], false)
  | path :: paths =>
    if (tree path).isFile then
      if isRoot tree path then ([path], true)
      else
        let (found, rooted) := filesUpToRoot tree paths
        (path :: found, rooted)
    else filesUpToRoot tree paths

/-- Whether a path is that of the settings file in the home directory, however it is written. -/
def isGlobal (home : Option String) (path : String) : Bool :=
  home.any fun home => Path.same (globalPath home) path

/-- The settings files that apply in a directory, closest first. -/
def discover (tree : FileTree) (home : Option String) (cwd : String) : List String :=
  match filesUpToRoot tree (candidates cwd), home.map globalPath with
  | (found, true), _ => found
  | (found, false), none => found
  | (found, false), some path =>
    if (tree path).isFile && !found.any (Path.same path) then found ++ [path] else found

def load (tree : FileTree) (home : Option String) (cwd : String) : Except SettingsError Settings :=
  loadFiles tree (discover tree home cwd)

end Settings
end ContextualQuery
