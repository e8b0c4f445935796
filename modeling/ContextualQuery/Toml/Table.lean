import ContextualQuery.Toml.Value

/-!
# Building TOML tables

A document is a sequence of headers and assignments. Each adds to the tables that came before, and
may not define anything twice: a table has one header, a key one value, and only dotted keys add to
what dotted keys made.
-/
namespace ContextualQuery.Toml

def find? (entries : Entries) (name : String) : Option (Extent × Value) :=
  (entries.find? (·.1.name == name)).map (·.2)

def replace (entries : Entries) (name : String) (value : Extent × Value) : Entries :=
  entries.map fun entry => if entry.1.name == name then (entry.1, value) else entry

def Key.duplicate (key : Key) : Fault := ⟨.duplicateKey key.name, key.extent⟩

/-- Changes the table at the end of a path by `change`. Tables missing on the way are made, by
dotted keys or implied by a header; an array of tables stands for its last table. -/
def descend (byDots : Bool) (change : TableKind → Entries → Except Fault Entries) :
    List Key → TableKind → Entries → Except Fault Entries
  | [], kind, entries => change kind entries
  | key :: path, _, entries =>
    match find? entries key.name with
    | none => do
      let kind : TableKind := if byDots then .dotted else .implied
      let inner ← descend byDots change path kind []
      return entries ++ [(key, key.extent, .table kind inner)]
    | some (extent, .table kind inner) =>
      if kind = .inline ∨ (byDots ∧ kind = .declared) then .error key.duplicate
      else do
        let inner ← descend byDots change path kind inner
        return replace entries key.name (extent, .table kind inner)
    | some (extent, .array true items) =>
      match items.getLast? with
      | some (last, .table kind inner) => do
        let inner ← descend byDots change path kind inner
        return replace entries key.name
          (extent, .array true (items.dropLast ++ [(last, .table kind inner)]))
      | _ => .error key.duplicate
    | some _ => .error key.duplicate

structure Assignment where
  path : List Key
  key : Key
  extent : Extent
  value : Value

def Assignment.addTo (a : Assignment) (kind : TableKind) (entries : Entries) :
    Except Fault Entries :=
  descend true (fun kind entries =>
    if (kind = .dotted) = (a.path = []) then .error a.key.duplicate
    else match find? entries a.key.name with
      | some _ => .error a.key.duplicate
      | none => .ok (entries ++ [(a.key, a.extent, a.value)])) a.path kind entries

def inlineTable (assignments : List Assignment) : Except Fault Value := do
  let entries ← assignments.foldlM (fun entries a => a.addTo .inline entries) []
  return .table .inline entries

/-- The header of a table, or of one more table of an array. -/
structure Header where
  ofArray : Bool
  path : List Key
  key : Key
  extent : Extent

/-- Opens the table of a header inside its parent. A table that was only implied takes its key from
the header. -/
def Header.open (h : Header) (entries : Entries) : Except Fault Entries :=
  let fresh : Extent × Value := (h.extent, .table .declared [])
  match h.ofArray, find? entries h.key.name with
  | false, none => .ok (entries ++ [(h.key, fresh)])
  | false, some (_, .table .implied inner) =>
    .ok (entries.map fun entry =>
      if entry.1.name == h.key.name then (h.key, h.extent, .table .declared inner) else entry)
  | true, none => .ok (entries ++ [(h.key, h.extent, .array true [fresh])])
  | true, some (extent, .array true items) =>
    .ok (replace entries h.key.name (extent, .array true (items ++ [fresh])))
  | _, some _ => .error h.key.duplicate

inductive Statement where
  | header (h : Header)
  | assignment (a : Assignment)

/-- A document so far, and the path of the table that assignments go to. -/
structure Draft where
  entries : Entries := []
  table : List Key := []

def Draft.add (draft : Draft) : Statement → Except Fault Draft
  | .header h => do
    let entries ← descend false (fun _ entries => h.open entries) h.path .declared draft.entries
    return ⟨entries, h.path ++ [h.key]⟩
  | .assignment a => do
    let entries ← descend false a.addTo draft.table .declared draft.entries
    return { draft with entries }

def assemble (statements : List Statement) : Except Fault Entries := do
  return (← statements.foldlM Draft.add {}).entries

end ContextualQuery.Toml
