/-!
# Declared prefixes

A query may bind names to URIs, and an index written `name.local` then stands for `local` in the
bound context set. A later binding of a name replaces an earlier one.

* `PrefixTable.lookup_insert`: what a table knows after one more binding.
-/
namespace ContextualQuery

/-- Bindings of names to URIs, each name once, in the order of their first declaration. -/
structure PrefixTable where
  bindings : List (String × String)
deriving DecidableEq, Inhabited

namespace PrefixTable

/-- The name that a declaration without one binds. -/
def defaultName : String := "default"

def empty : PrefixTable := ⟨[]⟩

def lookup (table : PrefixTable) (name : String) : Option String := table.bindings.lookup name

/-- The bindings with `name` bound to `uri`, in its place if it has one and at the end if not. -/
def bind (name uri : String) : List (String × String) → List (String × String)
  | [] => [(name, uri)]
  | (n, u) :: rest => if name == n then (name, uri) :: rest else (n, u) :: bind name uri rest

def insert (table : PrefixTable) (name uri : String) : PrefixTable :=
  ⟨bind name uri table.bindings⟩

def size (table : PrefixTable) : Nat := table.bindings.length

def isEmpty (table : PrefixTable) : Bool := table.bindings.isEmpty

def splitAtDot (name : String) : Option (String × String) :=
  match name.toList.span (· != '.') with
  | (_, []) => none
  | (qualifier, _ :: rest) => some (String.ofList qualifier, String.ofList rest)

/-- An index name and the URI of its context set: the part after the first dot with its URI if the
part before is bound, else the whole name with none. -/
def resolveField (table : PrefixTable) (field : String) : String × String :=
  match splitAtDot field with
  | none => (field, "")
  | some (qualifier, rest) =>
    match table.lookup qualifier with
    | none => (field, "")
    | some uri => (rest, uri)

/-- A relation keeps its written form and has no URI, whatever is bound. -/
def resolveRelation (_ : PrefixTable) (relation : String) : String × String := (relation, "")

theorem lookup_insert (table : PrefixTable) (name uri other : String) :
    (table.insert name uri).lookup other =
      if other = name then some uri else table.lookup other := by
  obtain ⟨bindings⟩ := table
  simp only [insert, lookup]
  induction bindings with
  | nil =>
    by_cases h : other = name <;>
      simp [bind, List.lookup_nil, List.lookup_cons, h, beq_false_of_ne]
  | cons b rest ih =>
    obtain ⟨n, u⟩ := b
    by_cases hn : name = n <;> by_cases h : other = n <;>
      simp_all [bind, List.lookup_cons, beq_false_of_ne]
    exact fun same => absurd same.symm hn

end PrefixTable
end ContextualQuery
