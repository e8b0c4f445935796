import ContextualQuery.Command.Run

namespace ContextualQuery.Program

def logVariable : String := "RUST_LOG"

def usage : String :=
  "Parse and convert Contextual Query Language queries\n\n" ++
  "Usage: cql [OPTIONS] <COMMAND>\n\n" ++
  "Commands:\n" ++
  "  parse   Parse queries and print them in the selected format\n" ++
  "  fq      Convert an FQ (JSON) query back into another format\n" ++
  "  check   Validate queries and report every failure\n" ++
  "  config  Show effective configuration settings\n"

def entryOf (bytes : ByteArray) : FileEntry :=
  match String.fromUTF8? bytes with
  | some contents => .text contents
  | none => .binary

/-- The number of a system error, whose code may be given as its negative. -/
def errorNumber (code : UInt32) : Nat := min code.toNat (-code).toNat

def look (path : String) : IO FileEntry := do
  try
    return entryOf (← IO.FS.readBinFile path)
  catch
    | .inappropriateType _ code _ =>
      return if errorNumber code = 20 then .blocked else .directory
    | .invalidArgument _ code _ =>
      return if errorNumber code = 36 then .tooLong else .missing
    | _ => return .missing

/-- The file tree as far as some paths show it. -/
def treeOf (paths : List String) : IO FileTree := do
  let entries ← paths.mapM fun path => return (path, ← look path)
  return fun path => (entries.lookup path).getD .missing

/-- The standard input, if the command reads it. -/
def inputFor (command : Command) : IO FileEntry := do
  match command with
  | .fq none _ _ | .fq (some "-") _ _ => return entryOf (← (← IO.getStdin).readBinToEnd)
  | _ => return .missing

def run (invocation : Invocation) : IO Nat := do
  let cwd := (← IO.currentDir).toString
  let home := (← IO.getEnv "HOME").filter (!·.isEmpty)
  let surroundings : Surroundings := {
    cwd
    home
    tree := ← treeOf (invocation.paths cwd home)
    input := ← inputFor invocation.command
    logging := ← IO.getEnv logVariable }
  let outcome := invocation.run surroundings
  IO.print outcome.output
  IO.eprint (outcome.errors (invocation.logFilter surroundings))
  return outcome.exit

end ContextualQuery.Program

def main (arguments : List String) : IO UInt32 := do
  match ContextualQuery.Invocation.ofArguments arguments with
  | .ok invocation => return (← ContextualQuery.Program.run invocation).toUInt32
  | .error .helpAsked =>
    IO.print ContextualQuery.Program.usage
    return 0
  | .error e =>
    IO.eprint ContextualQuery.Program.usage
    return e.exit.toUInt32
