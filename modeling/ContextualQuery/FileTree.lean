import ContextualQuery.Text.Basic

/-!
# Files

A file system as the answers it gives: what stands at each path. Paths are texts with slashes
between their parts.

* `parent?_length`: a parent is shorter, so the ancestors of a path are finitely many.
-/
namespace ContextualQuery

namespace Path

def join (dir name : String) : String :=
  if dir.toList.isEmpty then name
  else if dir.toList.getLast? = some '/' then dir ++ name
  else dir ++ "/" ++ name

/-- Drops what adds nothing at the end of a path, which is given backwards: slashes and parts that
are a single dot. A root and a dot on their own stay. -/
def dropIdle : List Char → List Char
  | '/' :: c :: cs => dropIdle (c :: cs)
  | '.' :: '/' :: cs => dropIdle ('/' :: cs)
  | cs => cs

/-- The characters of a path without its last part and what adds nothing around it; the root and
the empty path have no last part. -/
def parentChars? (cs : List Char) : Option (List Char) :=
  match dropIdle cs.reverse with
  | [] => none
  | c :: rest =>
    if c = '/' then none else some (dropIdle (rest.dropWhile (· != '/'))).reverse

def parent? (path : String) : Option String := (parentChars? path.toList).map String.ofList

theorem dropIdle_length (cs : List Char) : (dropIdle cs).length ≤ cs.length := by
  fun_induction dropIdle cs with
  | case1 c cs ih => simp only [List.length_cons] at ih ⊢; omega
  | case2 cs ih => simp only [List.length_cons] at ih ⊢; omega
  | case3 => simp

theorem parentChars?_length {cs dir : List Char} (h : parentChars? cs = some dir) :
    dir.length < cs.length := by
  unfold parentChars? at h
  split at h
  · simp at h
  · rename_i c rest hrest
    have whole := dropIdle_length cs.reverse
    rw [hrest, List.length_reverse, List.length_cons] at whole
    split at h
    · simp at h
    · simp only [Option.some.injEq] at h
      have upper := dropIdle_length (rest.dropWhile (· != '/'))
      have named := (List.dropWhile_sublist (· != '/') (l := rest)).length_le
      simp only [← h, List.length_reverse]
      omega

theorem parent?_length {path dir : String} (h : parent? path = some dir) :
    dir.toList.length < path.toList.length := by
  simp only [parent?, Option.map_eq_some_iff] at h
  obtain ⟨chars, found, rfl⟩ := h
  simpa using parentChars?_length found

/-- A path and all directories it stands in, closest first. -/
def ancestors (path : String) : List String :=
  match _h : parent? path with
  | none => [path]
  | some dir => path :: ancestors dir
termination_by path.toList.length
decreasing_by exact parent?_length _h

/-- The parts of a path that count: those that are neither empty nor a single dot, after the slash
or dot that the path may start with. -/
def parts (path : String) : List String :=
  let counts (part : String) : Bool := part != "" && part != "."
  match (Text.pieces '/' path.toList).map String.ofList with
  | first :: second :: rest =>
    (if first = "" then "/" else first) :: (second :: rest).filter counts
  | whole => whole.filter (· != "")

def same (path other : String) : Bool := parts path == parts other

end Path

inductive FileEntry where
  | missing
  /-- A part of the path before the last is a file. -/
  | blocked
  /-- The path, or a part of it, is longer than a name may be. -/
  | tooLong
  /-- The path holds the character NUL, which no name does. -/
  | unnamed
  | directory
  /-- A file whose bytes are not UTF-8. -/
  | binary
  | text (contents : String)
deriving DecidableEq, Inhabited

inductive ReadFault where
  | missing
  | blocked
  | tooLong
  | unnamed
  | directory
  | notUtf8
deriving DecidableEq, Inhabited

def ReadFault.message : ReadFault → String
  | .missing => "No such file or directory (os error 2)"
  | .blocked => "Not a directory (os error 20)"
  | .tooLong => "File name too long (os error 36)"
  | .unnamed => "file name contained an unexpected NUL byte"
  | .directory => "Is a directory (os error 21)"
  | .notUtf8 => "stream did not contain valid UTF-8"

def FileEntry.read : FileEntry → Except ReadFault String
  | .missing => .error .missing
  | .blocked => .error .blocked
  | .tooLong => .error .tooLong
  | .unnamed => .error .unnamed
  | .directory => .error .directory
  | .binary => .error .notUtf8
  | .text contents => .ok contents

def FileEntry.isFile : FileEntry → Bool
  | .binary | .text _ => true
  | .missing | .blocked | .tooLong | .unnamed | .directory => false

abbrev FileTree := String → FileEntry

end ContextualQuery
