import ContextualQuery.Proofs.Toml.Spelling
import ContextualQuery.Toml.Reader
import Mathlib.Data.List.Forall2
import Mathlib.Data.List.TakeDrop

/-!
# Documents of sections

A document in which each table has a header and sets nothing but strings, one a line.

* `spells_header`, `spells_assignment`: the lines of such a document, read one after another;
* `assemble_blocks`: headers and the assignments under them make their tables;
* `parse_documentText`: the document is read as the tables it was written from.
-/
namespace ContextualQuery.Toml

/-- A table and the strings that it sets. -/
structure Section where
  name : String
  settings : List (String × String)

def Section.text (s : Section) : String :=
  "[" ++ s.name ++ "]\n" ++ String.join (s.settings.map fun setting =>
    assignmentText setting.1 setting.2)

/-- Tables with an empty line before each but the first. -/
def documentText : List Section → String
  | [] => ""
  | s :: sections =>
    s.text ++ String.join (sections.map fun s => "\n" ++ s.text)

/-- A name that needs no quotes as a key. -/
def IsBare (name : String) : Prop :=
  name.toList ≠ [] ∧ ∀ c ∈ name.toList, isBareKeyChar c = true

instance (name : String) : Decidable (IsBare name) :=
  decidable_of_iff ((!name.toList.isEmpty && name.toList.all isBareKeyChar) = true)
    (by simp [IsBare])

/-- A section whose names need no quotes, and none of whose keys occurs twice. -/
structure Section.Plain (s : Section) : Prop where
  name : IsBare s.name
  keys : ∀ setting ∈ s.settings, IsBare setting.1
  apart : (s.settings.map Prod.fst).Nodup

theorem IsBare.cons {name : String} (bare : IsBare name) :
    ∃ c cs, name.toList = c :: cs ∧ isBareKeyChar c = true := by
  obtain ⟨c, cs, chars⟩ := List.exists_cons_of_ne_nil bare.1
  exact ⟨c, cs, chars, bare.2 c (by simp [chars])⟩

/-- A character that is part of no bare key is none of its characters. -/
theorem ne_of_isBareKeyChar {c d : Char} (bare : isBareKeyChar c = true)
    (other : isBareKeyChar d = false) : c ≠ d := by
  rintro rfl
  rw [bare] at other
  cases other

theorem isSpace_of_isBareKeyChar {c : Char} (bare : isBareKeyChar c = true) :
    isSpace c = false := by
  have blank := ne_of_isBareKeyChar bare (show isBareKeyChar ' ' = false by decide)
  have tab := ne_of_isBareKeyChar bare (show isBareKeyChar '\t' = false by decide)
  simp [isSpace, blank, tab]

theorem readKey_bare {name : String} (bare : IsBare name) {stop : Char}
    (stops : isBareKeyChar stop = false) (rest : List Char) :
    ∃ extent, readKey (name.toList ++ stop :: rest) = .ok (⟨name, extent⟩, stop :: rest) := by
  obtain ⟨c, cs, chars, first⟩ := bare.cons
  have quote := ne_of_isBareKeyChar first (show isBareKeyChar '"' = false by decide)
  have mark := ne_of_isBareKeyChar first (show isBareKeyChar '\'' = false by decide)
  have line : readLine? (name.toList ++ stop :: rest) = none := by
    rw [chars, List.cons_append]
    unfold readLine?
    split
    · rename_i same
      exact absurd (List.cons.inj same).1 quote
    · rename_i same
      exact absurd (List.cons.inj same).1 mark
    · rfl
  have span : (name.toList ++ stop :: rest).span isBareKeyChar = (name.toList, stop :: rest) := by
    rw [List.span_eq_takeWhile_dropWhile, List.takeWhile_append_of_pos bare.2,
      List.dropWhile_append_of_pos bare.2]
    simp [stops]
  have single (m : Char) (other : c ≠ m) :
      startsTriple m (name.toList ++ stop :: rest) = false := by
    rw [chars, List.cons_append, startsTriple, markRun_cons_ne other]
    rfl
  refine ⟨.between (name.toList ++ stop :: rest) (stop :: rest), ?_⟩
  rw [readKey, single '"' quote, single '\'' mark, line]
  simp only [span, Bool.or_self, Bool.false_eq_true, ↓reduceIte]
  split
  · rename_i empty
    exact absurd (Prod.mk.inj empty).1 bare.1
  · rename_i same
    obtain ⟨rfl, rfl⟩ := Prod.mk.inj same
    rw [String.ofList_toList]

theorem skipSpace_cons {c : Char} (h : isSpace c = false) (cs : List Char) :
    skipSpace (c :: cs) = c :: cs := by
  simp [skipSpace, h]

theorem readDottedKey_bare {name : String} (bare : IsBare name) {stop : Char}
    (stops : isBareKeyChar stop = false) (rest : List Char)
    (dot : (skipSpace (stop :: rest)).head? ≠ some '.') :
    ∃ extent, readDottedKey (name.toList ++ stop :: rest) =
      .ok (([], ⟨name, extent⟩), stop :: rest) := by
  obtain ⟨extent, key⟩ := readKey_bare bare stops rest
  have path : readPath ((name.toList ++ stop :: rest).length + 1) (name.toList ++ stop :: rest) =
      .ok ([⟨name, extent⟩], stop :: rest) := by
    rw [readPath, key]
    simp only [bind, Except.bind]
    split
    · rename_i more
      exact absurd (by rw [more]; rfl) dot
    · rfl
  refine ⟨extent, ?_⟩
  rw [readDottedKey, path]
  rfl

theorem skipBlank_cons {c : Char} (feed : c ≠ '\n') (carriage : c ≠ '\r')
    (space : isSpace c = false) (comment : c ≠ '#') (cs : List Char) :
    skipBlank false (c :: cs) = .ok (c :: cs) := by
  unfold skipBlank
  split
  · rename_i same
    cases same
  · rename_i same
    exact absurd (List.cons.inj same).1 carriage
  · rename_i same
    obtain ⟨rfl, rfl⟩ := List.cons.inj same
    simp [feed, space, comment]

theorem endLine_feed (rest : List Char) : endLine ('\n' :: rest) = .ok rest := by
  rw [endLine, skipSpace_cons (by decide)]
  rfl

theorem readHeader_bare {name : String} (bare : IsBare name) (rest : List Char) :
    ∃ h : Header, (h.ofArray = false ∧ h.path = [] ∧ h.key.name = name) ∧
      readHeader ('[' :: name.toList ++ ']' :: '\n' :: rest) = .ok (h, '\n' :: rest) := by
  obtain ⟨extent, key⟩ := readDottedKey_bare bare (show isBareKeyChar ']' = false by decide)
    ('\n' :: rest) (by simp [skipSpace, isSpace])
  obtain ⟨c, cs, chars, first⟩ := bare.cons
  have bracket := ne_of_isBareKeyChar first (show isBareKeyChar '[' = false by decide)
  have single : markRun '[' ('[' :: name.toList ++ ']' :: '\n' :: rest) = 1 := by
    rw [chars, List.cons_append, List.cons_append, markRun_cons_self, markRun_cons_ne bracket]
  have opened : skipSpace (name.toList ++ ']' :: '\n' :: rest) =
      name.toList ++ ']' :: '\n' :: rest := by
    rw [chars, List.cons_append, skipSpace_cons (isSpace_of_isBareKeyChar first)]
  have closed : markRun ']' (']' :: '\n' :: rest) = 1 := by
    rw [markRun_cons_self, markRun_cons_ne (by decide)]
  refine ⟨⟨false, [], ⟨name, extent⟩, .between ('[' :: name.toList ++ ']' :: '\n' :: rest)
    ('\n' :: rest)⟩, ⟨rfl, rfl, rfl⟩, ?_⟩
  rw [readHeader, single]
  simp only [List.cons_append, List.drop_succ_cons, List.drop_zero, Nat.reduceLeDiff,
    decide_false, ↓reduceIte, opened, key, bind, Except.bind,
    skipSpace_cons (show isSpace ']' = false by decide), closed, Nat.lt_irrefl]
  rfl

/-- A written string starts with a mark. -/
theorem head_write (form : Form) (cs : List Char) :
    ∃ c rest, form.write cs = c :: rest ∧ isSpace c = false := by
  cases form <;> exact ⟨_, _, rfl, by decide⟩

theorem readValue_string (depth : Nat) (value : String) (rest : List Char) :
    readValue depth ((stringText value).toList ++ '\n' :: rest) =
      .ok (.string value, '\n' :: rest) := by
  have quote : NoMark '"' ('\n' :: rest) := by simp [NoMark]
  have read := readString?_write value.toList quote (by simp [NoMark])
  rw [← String.toList_ofList (l := (formOf value.toList).write value.toList), ← stringText] at read
  rw [readValue.eq_def, read]
  simp [bind, Except.bind, pure, Except.pure]

theorem readAssignment_bare {key : String} (bare : IsBare key) (value : String)
    (rest : List Char) :
    ∃ a : Assignment, (a.path = [] ∧ a.key.name = key ∧ a.value = .string value) ∧
      readAssignment false (readValue depthLimit)
        (key.toList ++ ' ' :: '=' :: ' ' :: ((stringText value).toList ++ '\n' :: rest)) =
      .ok (a, '\n' :: rest) := by
  obtain ⟨extent, name⟩ := readDottedKey_bare bare (show isBareKeyChar ' ' = false by decide)
    ('=' :: ' ' :: ((stringText value).toList ++ '\n' :: rest)) (by simp [skipSpace, isSpace])
  have equals : skipSpace (' ' :: '=' :: ' ' :: ((stringText value).toList ++ '\n' :: rest)) =
      '=' :: ' ' :: ((stringText value).toList ++ '\n' :: rest) := by
    simp [skipSpace, isSpace]
  have start : skipSpace (' ' :: ((stringText value).toList ++ '\n' :: rest)) =
      (stringText value).toList ++ '\n' :: rest := by
    obtain ⟨c, cs, written, space⟩ := head_write (formOf value.toList) value.toList
    have chars : (stringText value).toList = c :: cs := by
      rw [stringText, String.toList_ofList, written]
    rw [chars, List.cons_append]
    simp [skipSpace, space, show isSpace ' ' = true by decide]
  refine ⟨⟨[], ⟨key, extent⟩, .between ((stringText value).toList ++ '\n' :: rest) ('\n' :: rest),
    .string value⟩, ⟨rfl, rfl, rfl⟩, ?_⟩
  rw [readAssignment, name]
  simp only [bind, Except.bind, skipGap, Bool.false_eq_true, ↓reduceIte, equals, after?, start,
    located, readValue_string]
  rfl

/-- A text is read as these statements, with any fuel that is more than they are. -/
def Spells (cs : List Char) (statements : List Statement) : Prop :=
  statements.length ≤ cs.length ∧
    ∀ fuel, statements.length < fuel → readStatements fuel cs = .ok statements

theorem spells_of_succ {cs : List Char} {statements : List Statement}
    (fits : statements.length ≤ cs.length)
    (read : ∀ fuel, statements.length ≤ fuel → readStatements (fuel + 1) cs = .ok statements) :
    Spells cs statements := by
  refine ⟨fits, fun fuel few => ?_⟩
  obtain ⟨fuel, rfl⟩ := Nat.exists_eq_succ_of_ne_zero (Nat.ne_zero_of_lt few)
  exact read fuel (Nat.le_of_lt_succ few)

theorem spells_nil : Spells [] [] := spells_of_succ (Nat.le_refl _) fun _ _ => rfl

theorem spells_feed {cs : List Char} {statements : List Statement} (spells : Spells cs statements) :
    Spells ('\n' :: cs) statements := by
  refine spells_of_succ (Nat.le_succ_of_le spells.1) fun fuel few => ?_
  have blank : skipBlank false ('\n' :: cs) = skipBlank false cs := by simp [skipBlank]
  rw [readStatements, blank, ← readStatements]
  exact spells.2 _ (Nat.lt_succ_of_le few)

theorem spells_header {name : String} (bare : IsBare name) {rest : List Char}
    {statements : List Statement} (spells : Spells rest statements) :
    ∃ h : Header, (h.ofArray = false ∧ h.path = [] ∧ h.key.name = name) ∧
      Spells ('[' :: name.toList ++ ']' :: '\n' :: rest) (.header h :: statements) := by
  obtain ⟨h, names, read⟩ := readHeader_bare bare rest
  refine ⟨h, names, spells_of_succ ?_ fun fuel few => ?_⟩
  · have := spells.1
    simp only [List.length_cons, List.length_append]
    omega
  · have later := spells.2 fuel few
    rw [List.cons_append] at read ⊢
    rw [readStatements, skipBlank_cons (by decide) (by decide) (by decide) (by decide)]
    simp only [bind, Except.bind, ↓reduceIte, read, pure, Except.pure, endLine_feed, later]

theorem spells_assignment {key : String} (bare : IsBare key) (value : String) {rest : List Char}
    {statements : List Statement} (spells : Spells rest statements) :
    ∃ a : Assignment, (a.path = [] ∧ a.key.name = key ∧ a.value = .string value) ∧
      Spells ((assignmentText key value).toList ++ rest) (.assignment a :: statements) := by
  obtain ⟨a, names, read⟩ := readAssignment_bare bare value rest
  have text : (assignmentText key value).toList ++ rest =
      key.toList ++ ' ' :: '=' :: ' ' :: ((stringText value).toList ++ '\n' :: rest) := by
    simp [assignmentText]
  refine ⟨a, names, spells_of_succ ?_ fun fuel few => ?_⟩
  · have := spells.1
    simp only [text, List.length_cons, List.length_append]
    omega
  · have later := spells.2 fuel few
    obtain ⟨c, cs, chars, first⟩ := bare.cons
    have other {d : Char} (h : isBareKeyChar d = false) : c ≠ d := ne_of_isBareKeyChar first h
    rw [text]
    rw [chars, List.cons_append] at read ⊢
    rw [readStatements, skipBlank_cons (other (by decide)) (other (by decide))
      (isSpace_of_isBareKeyChar first) (other (by decide))]
    simp only [bind, Except.bind, if_neg (other (d := '[') (by decide)), read, pure, Except.pure,
      endLine_feed, later]

structure Block where
  header : Header
  assignments : List Assignment

def Block.statements (b : Block) : List Statement :=
  .header b.header :: b.assignments.map .assignment

def Assignment.entry (a : Assignment) : Key × Extent × Value := (a.key, a.extent, a.value)

def Block.entry (b : Block) : Key × Extent × Value :=
  (b.header.key, b.header.extent, .table .declared (b.assignments.map Assignment.entry))

/-- Nothing in a block has a dotted key, and no key occurs twice. -/
structure Block.Plain (b : Block) : Prop where
  header : b.header.ofArray = false ∧ b.header.path = []
  undotted : ∀ a ∈ b.assignments, a.path = []
  apart : (b.assignments.map (·.key.name)).Nodup

def names (entries : Entries) : List String := entries.map (·.1.name)

/-- A name that none of the names before it is may join them. -/
theorem nodup_append_cons {before later : List String} {name : String}
    (new : (before ++ name :: later).Nodup) :
    name ∉ before ∧ ((before ++ [name]) ++ later).Nodup := by
  constructor
  · intro known
    exact (List.nodup_append.mp new).2.2 name known name List.mem_cons_self rfl
  · rwa [List.append_assoc, List.singleton_append]

theorem find?_of_notMem {entries : Entries} {name : String} (new : name ∉ names entries) :
    find? entries name = none := by
  rw [find?, Option.map_eq_none_iff, List.find?_eq_none]
  intro entry hentry
  have different : entry.1.name ≠ name := by
    rintro rfl
    exact new (List.mem_map_of_mem hentry)
  simpa using different

theorem find?_append_singleton {front : Entries} {key : Key} (new : key.name ∉ names front)
    (value : Extent × Value) : find? (front ++ [(key, value)]) key.name = some value := by
  have none : front.find? (·.1.name == key.name) = none := by
    simpa [find?] using find?_of_notMem new
  simp [find?, List.find?_append, none]

theorem replace_append_singleton {front : Entries} {key : Key} (new : key.name ∉ names front)
    (value value' : Extent × Value) :
    replace (front ++ [(key, value)]) key.name value' = front ++ [(key, value')] := by
  have kept : replace front key.name value' = front := by
    refine (List.map_congr_left fun entry hentry => ?_).trans front.map_id
    have different : entry.1.name ≠ key.name := fun same => new (same ▸ List.mem_map_of_mem hentry)
    simp [different]
  rw [replace, List.map_append, ← replace, kept]
  simp

theorem add_header {h : Header} (plain : h.ofArray = false ∧ h.path = []) {entries : Entries}
    (new : h.key.name ∉ names entries) (table : List Key) :
    Draft.add ⟨entries, table⟩ (.header h) =
      .ok ⟨entries ++ [(h.key, h.extent, .table .declared [])], [h.key]⟩ := by
  simp only [Draft.add, plain.2, descend, Header.open, plain.1, find?_of_notMem new, bind,
    Except.bind, List.nil_append]
  rfl

theorem add_assignment {a : Assignment} (undotted : a.path = []) {inner : Entries}
    (new : a.key.name ∉ names inner) {front : Entries} {key : Key} (apart : key.name ∉ names front)
    (extent : Extent) :
    Draft.add ⟨front ++ [(key, extent, .table .declared inner)], [key]⟩ (.assignment a) =
      .ok ⟨front ++ [(key, extent, .table .declared (inner ++ [a.entry]))], [key]⟩ := by
  have added : a.addTo .declared inner = .ok (inner ++ [a.entry]) := by
    rw [Assignment.addTo, undotted, descend, if_neg (by simp), find?_of_notMem new]
    rfl
  simp only [Draft.add, descend, find?_append_singleton apart, added, bind, Except.bind, pure,
    Except.pure, replace_append_singleton apart]
  rfl

/-- Assignments fill the table of the header above them. -/
theorem foldlM_assignments {assignments : List Assignment} (inner : Entries) {front : Entries}
    {key : Key}
    (undotted : ∀ a ∈ assignments, a.path = [])
    (new : (names inner ++ assignments.map (·.key.name)).Nodup) (apart : key.name ∉ names front)
    (extent : Extent) :
    (assignments.map Statement.assignment).foldlM Draft.add
        ⟨front ++ [(key, extent, .table .declared inner)], [key]⟩ =
      .ok ⟨front ++ [(key, extent, .table .declared (inner ++ assignments.map Assignment.entry))],
        [key]⟩ := by
  induction assignments generalizing inner with
  | nil => simp [pure, Except.pure]
  | cons a assignments ih =>
    obtain ⟨here, later⟩ := List.forall_mem_cons.mp undotted
    obtain ⟨absent, rest⟩ := nodup_append_cons new
    have grown : names (inner ++ [a.entry]) = names inner ++ [a.key.name] := by
      simp [names, Assignment.entry]
    rw [← grown] at rest
    rw [List.map_cons, List.foldlM_cons, add_assignment here absent apart]
    simp only [bind, Except.bind, ih _ later rest, List.append_assoc, List.map_cons,
      List.singleton_append]

theorem foldlM_blocks {blocks : List Block} (front : Entries)
    (plain : ∀ b ∈ blocks, b.Plain) (new : (names front ++ blocks.map (·.header.key.name)).Nodup)
    (table : List Key) :
    ∃ table', (blocks.flatMap Block.statements).foldlM Draft.add ⟨front, table⟩ =
      .ok ⟨front ++ blocks.map Block.entry, table'⟩ := by
  induction blocks generalizing front table with
  | nil => exact ⟨table, by simp [pure, Except.pure]⟩
  | cons b blocks ih =>
    obtain ⟨here, later⟩ := List.forall_mem_cons.mp plain
    obtain ⟨absent, rest⟩ := nodup_append_cons new
    have grown : names (front ++ [b.entry]) = names front ++ [b.header.key.name] := by
      simp [names, Block.entry]
    rw [← grown] at rest
    obtain ⟨table', built⟩ := ih _ later rest [b.header.key]
    refine ⟨table', ?_⟩
    have filled := foldlM_assignments [] here.undotted here.apart absent b.header.extent
    rw [List.flatMap_cons, List.foldlM_append, Block.statements, List.foldlM_cons,
      add_header here.header absent]
    simp only [bind, Except.bind, filled]
    rw [List.nil_append, ← Block.entry, built, List.append_assoc]
    rfl

/-- Headers and the assignments under them make their tables. -/
theorem assemble_blocks {blocks : List Block} (plain : ∀ b ∈ blocks, b.Plain)
    (apart : (blocks.map (·.header.key.name)).Nodup) :
    assemble (blocks.flatMap Block.statements) = .ok (blocks.map Block.entry) := by
  obtain ⟨table, built⟩ := foldlM_blocks [] plain apart []
  rw [assemble, built]
  rfl

/-- An assignment of a string to a key. -/
def Assignment.Sets (setting : String × String) (a : Assignment) : Prop :=
  a.path = [] ∧ a.key.name = setting.1 ∧ a.value = .string setting.2

/-- A block with the name and the settings of a section. -/
structure Block.Reads (s : Section) (b : Block) : Prop where
  header : b.header.ofArray = false ∧ b.header.path = [] ∧ b.header.key.name = s.name
  assignments : List.Forall₂ Assignment.Sets s.settings b.assignments

theorem forall_of_forall₂ {α β : Type} {R : α → β → Prop} {p : β → Prop} {xs : List α}
    {ys : List β} (related : List.Forall₂ R xs ys) (h : ∀ x ∈ xs, ∀ y, R x y → p y) :
    ∀ y ∈ ys, p y := by
  induction related with
  | nil => simp
  | cons first _ ih =>
    obtain ⟨here, later⟩ := List.forall_mem_cons.mp h
    exact List.forall_mem_cons.mpr ⟨here _ first, ih later⟩

theorem map_eq_of_forall₂ {α β γ : Type} {R : α → β → Prop} {f : α → γ} {g : β → γ} {xs : List α}
    {ys : List β} (related : List.Forall₂ R xs ys) (h : ∀ x y, R x y → g y = f x) :
    ys.map g = xs.map f := by
  induction related with
  | nil => rfl
  | cons first _ ih => rw [List.map_cons, List.map_cons, h _ _ first, ih]

theorem Block.Reads.plain {s : Section} {b : Block} (reads : b.Reads s) (plain : s.Plain) :
    b.Plain where
  header := ⟨reads.header.1, reads.header.2.1⟩
  undotted := forall_of_forall₂ reads.assignments fun _ _ _ sets => sets.1
  apart := by
    rw [map_eq_of_forall₂ reads.assignments fun _ _ sets => sets.2.1]
    exact plain.apart

theorem spells_settings {settings : List (String × String)}
    (bare : ∀ setting ∈ settings, IsBare setting.1) {rest : List Char}
    {statements : List Statement} (spells : Spells rest statements) :
    ∃ assignments, List.Forall₂ Assignment.Sets settings assignments ∧
      Spells ((String.join (settings.map fun setting =>
        assignmentText setting.1 setting.2)).toList ++ rest)
        (assignments.map .assignment ++ statements) := by
  induction settings with
  | nil => exact ⟨[], .nil, spells⟩
  | cons setting settings ih =>
    obtain ⟨here, later⟩ := List.forall_mem_cons.mp bare
    obtain ⟨assignments, sets, read⟩ := ih later
    obtain ⟨a, first, read⟩ := spells_assignment here setting.2 read
    refine ⟨a :: assignments, .cons first sets, ?_⟩
    rw [List.map_cons, String.join_cons, String.toList_append, List.append_assoc]
    exact read

theorem spells_section {s : Section} (plain : s.Plain) {rest : List Char}
    {statements : List Statement} (spells : Spells rest statements) :
    ∃ b : Block, b.Reads s ∧ Spells (s.text.toList ++ rest) (b.statements ++ statements) := by
  obtain ⟨assignments, sets, read⟩ := spells_settings plain.keys spells
  obtain ⟨h, names, read⟩ := spells_header plain.name read
  refine ⟨⟨h, assignments⟩, ⟨names, sets⟩, ?_⟩
  have text : s.text.toList ++ rest = '[' :: s.name.toList ++ ']' :: '\n' ::
      ((String.join (s.settings.map fun setting =>
        assignmentText setting.1 setting.2)).toList ++ rest) := by
    simp [Section.text]
  rw [text]
  exact read

theorem spells_sections {sections : List Section} (plain : ∀ s ∈ sections, s.Plain) :
    ∃ blocks, List.Forall₂ Block.Reads sections blocks ∧
      Spells (String.join (sections.map fun s => "\n" ++ s.text)).toList
        (blocks.flatMap Block.statements) := by
  induction sections with
  | nil => exact ⟨[], .nil, spells_nil⟩
  | cons s sections ih =>
    obtain ⟨here, later⟩ := List.forall_mem_cons.mp plain
    obtain ⟨blocks, reads, read⟩ := ih later
    obtain ⟨b, first, read⟩ := spells_section here read
    refine ⟨b :: blocks, .cons first reads, ?_⟩
    rw [List.map_cons, String.join_cons, String.toList_append, String.toList_append,
      List.append_assoc]
    exact spells_feed read

theorem spells_documentText {sections : List Section} (plain : ∀ s ∈ sections, s.Plain) :
    ∃ blocks, List.Forall₂ Block.Reads sections blocks ∧
      Spells (documentText sections).toList (blocks.flatMap Block.statements) := by
  cases sections with
  | nil => exact ⟨[], .nil, spells_nil⟩
  | cons s sections =>
    obtain ⟨here, later⟩ := List.forall_mem_cons.mp plain
    obtain ⟨blocks, reads, read⟩ := spells_sections later
    obtain ⟨b, first, read⟩ := spells_section here read
    refine ⟨b :: blocks, .cons first reads, ?_⟩
    rw [documentText, String.toList_append]
    exact read

theorem dropByteOrderMark_documentText (sections : List Section) :
    dropByteOrderMark (documentText sections).toList = (documentText sections).toList := by
  cases sections with
  | nil => rfl
  | cons s sections =>
    simp only [documentText, Section.text, String.toList_append]
    rfl

/-- A document of sections with different names is read as a table for each, in their order and with
the strings that it sets. -/
theorem parse_documentText {sections : List Section} (plain : ∀ s ∈ sections, s.Plain)
    (apart : (sections.map Section.name).Nodup) :
    ∃ blocks, List.Forall₂ Block.Reads sections blocks ∧
      parse (documentText sections) = .ok (blocks.map Block.entry) := by
  obtain ⟨blocks, reads, read⟩ := spells_documentText plain
  refine ⟨blocks, reads, ?_⟩
  have tables : ∀ b ∈ blocks, b.Plain :=
    forall_of_forall₂ reads fun s hs _ same => same.plain (plain s hs)
  have names : blocks.map (·.header.key.name) = sections.map Section.name :=
    map_eq_of_forall₂ reads fun _ _ same => same.header.2.2
  rw [parse, dropByteOrderMark_documentText, read.2 _ (Nat.lt_succ_of_le read.1)]
  exact assemble_blocks tables (names ▸ apart)

end ContextualQuery.Toml
