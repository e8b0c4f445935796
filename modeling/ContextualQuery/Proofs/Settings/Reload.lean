import ContextualQuery.Proofs.Query.Reading
import ContextualQuery.Proofs.Toml.Document
import ContextualQuery.Settings.Discovery

/-!
# Settings reload to themselves

The document that sets every setting is a settings file, and read alone it gives the same settings.

* `parse_toToml`: the document is read as the file that sets every setting to its value;
* `merge_acceptable`: settings that files give pass their own checks;
* `merge_reloads`: so these settings are accepted once more.
-/
namespace ContextualQuery

open Toml (Assignment Block Entries Extent Key Value)

def ServerChoice.asSection (choice : ServerChoice) : Toml.Section := ⟨"parser", [
  ("server_choice_field", choice.field),
  ("server_choice_relation", choice.relation)]⟩

def OutputSettings.asSection (output : OutputSettings) : Toml.Section := ⟨"output", [
  ("format", output.format.name),
  ("indent", output.indent),
  ("newline", output.newline),
  ("xml_indent_char", String.ofList [output.xmlIndent])]⟩

def Settings.asFile (s : Settings) : SettingsFile where
  parser := some { field := s.choice.field, relation := s.choice.relation }
  output := some {
    format := s.output.format
    indent := s.output.indent
    newline := s.output.newline
    xmlIndent := String.ofList [s.output.xmlIndent] }

theorem Settings.toToml_eq (s : Settings) :
    s.toToml = Toml.documentText [s.choice.asSection, s.output.asSection] := by
  have first : "[parser]\n" = "[" ++ ("parser" ++ "]\n") := by decide
  have second : "\n[output]\n" = "\n" ++ ("[" ++ ("output" ++ "]\n")) := by decide
  -- The equation of this definition is slow to derive, so its body is put in directly.
  delta toToml
  simp only [first, second, ServerChoice.asSection, OutputSettings.asSection,
    Toml.documentText, Toml.Section.text, List.map_cons, List.map_nil, String.join_cons,
    String.join_nil, String.append_assoc, String.append_empty]

theorem ServerChoice.asSection_plain (choice : ServerChoice) : choice.asSection.Plain := by
  refine ⟨show Toml.IsBare "parser" by decide, ?_, by simp [ServerChoice.asSection]⟩
  simp only [ServerChoice.asSection, List.forall_mem_cons]
  decide

theorem OutputSettings.asSection_plain (output : OutputSettings) : output.asSection.Plain := by
  refine ⟨show Toml.IsBare "output" by decide, ?_, by simp [OutputSettings.asSection]⟩
  simp only [OutputSettings.asSection, List.forall_mem_cons]
  decide

namespace SettingsFile

/-- The fields take one value after another, wherever they stand. -/
inductive Takes {α : Type} (fields : List (Field α)) : α → List (String × Value) → α → Prop where
  | nil (soFar : α) : Takes fields soFar [] soFar
  | cons {soFar next last : α} {name : String} {value : Value} {values : List (String × Value)}
      {read : α → Extent × Value → Except Fault α} (known : fields.lookup name = some read)
      (here : ∀ extent, read soFar (extent, value) = .ok next)
      (later : Takes fields next values last) : Takes fields soFar ((name, value) :: values) last

def Gives (given : String × Value) (entry : Key × Extent × Value) : Prop :=
  entry.1.name = given.1 ∧ entry.2.2 = given.2

/-- A table is read as its fields take its entries in ascending order. -/
theorem Takes.readTable {α : Type} {fields : List (Field α)} {start last : α}
    {values : List (String × Value)} (takes : Takes fields start values last) {entries : Entries}
    (gives : List.Forall₂ Gives values (sorted entries)) :
    readTable fields start entries = .ok last := by
  rw [SettingsFile.readTable]
  generalize sorted entries = entries at gives
  induction takes generalizing entries with
  | nil =>
    cases gives
    rfl
  | cons known here later ih =>
    obtain - | @⟨_, ⟨key, extent, _⟩, _, entries, ⟨rfl, rfl⟩, gives⟩ := gives
    simp only [List.foldlM_cons, known, here, bind, Except.bind]
    exact ih _ gives

/-- Assignments with ascending names are read in the order that they stand. -/
theorem sorted_of_ascending {settings : List (String × String)} {assignments : List Assignment}
    (sets : List.Forall₂ Assignment.Sets settings assignments)
    (ascending : (settings.map Prod.fst).Pairwise (· ≤ ·)) :
    sorted (assignments.map Assignment.entry) = assignments.map Assignment.entry := by
  rw [← Toml.map_eq_of_forall₂ sets fun _ _ same => same.2.1, List.pairwise_map] at ascending
  exact List.mergeSort_of_pairwise (List.pairwise_map.mpr (ascending.imp decide_eq_true))

/-- A section of strings in ascending order is read as its fields take them. -/
theorem readSection_block {α : Type} {fields : List (Field α)} {start last : α}
    {t : Toml.Section} {b : Block} (reads : b.Reads t)
    (ascending : (t.settings.map Prod.fst).Pairwise (· ≤ ·))
    (takes : Takes fields start (t.settings.map fun setting => (setting.1, .string setting.2)) last)
    (title : String) (extent : Extent) :
    readSection title fields start (extent, b.entry.2.2) = .ok last := by
  refine takes.readTable ?_
  rw [sorted_of_ascending reads.assignments ascending, List.forall₂_map_left_iff,
    List.forall₂_map_right_iff]
  exact reads.assignments.imp fun _ _ same => ⟨same.2.1, same.2.2⟩

theorem readSection_choice {choice : ServerChoice} {b : Block} (reads : b.Reads choice.asSection)
    (extent : Extent) : readSection "RawParserSettings" parserFields {} (extent, b.entry.2.2) =
      .ok ⟨choice.field, choice.relation⟩ := by
  have ascending : ["server_choice_field", "server_choice_relation"].Pairwise (· ≤ ·) := by decide
  exact readSection_block reads ascending
    (.cons rfl (fun _ => rfl) (.cons rfl (fun _ => rfl) (.nil _))) _ extent

theorem format_string (f : OutputFormat) (extent : Extent) :
    format (extent, .string f.name) = .ok f := by
  cases f <;> rfl

theorem readSection_output {output : OutputSettings} {b : Block} (reads : b.Reads output.asSection)
    (extent : Extent) : readSection "RawOutputSettings" outputFields {} (extent, b.entry.2.2) =
      .ok ⟨output.format, output.indent, output.newline, String.ofList [output.xmlIndent]⟩ := by
  have ascending : ["format", "indent", "newline", "xml_indent_char"].Pairwise (· ≤ ·) := by
    decide
  have others : Takes outputFields ⟨output.format, none, none, none⟩
      [("indent", .string output.indent), ("newline", .string output.newline),
        ("xml_indent_char", .string (String.ofList [output.xmlIndent]))]
      ⟨output.format, output.indent, output.newline, String.ofList [output.xmlIndent]⟩ :=
    .cons rfl (fun _ => rfl) (.cons rfl (fun _ => rfl) (.cons rfl (fun _ => rfl) (.nil _)))
  refine readSection_block reads ascending (.cons rfl (fun extent => ?_) others) _ extent
  rw [format_string]
  rfl

theorem takes_sections {s : Settings} {choice output : Block}
    (choiceReads : choice.Reads s.choice.asSection)
    (outputReads : output.Reads s.output.asSection) :
    Takes fileFields {} [("output", output.entry.2.2), ("parser", choice.entry.2.2)] s.asFile := by
  have parser : Takes fileFields { s.asFile with parser := none } [("parser", choice.entry.2.2)]
      s.asFile := by
    refine .cons rfl (fun extent => ?_) (.nil _)
    rw [readSection_choice choiceReads]
    rfl
  refine .cons rfl (fun extent => ?_) parser
  rw [readSection_output outputReads]
  rfl

/-- The document that sets every setting is read as the file that does. -/
theorem parse_toToml (s : Settings) : parse s.toToml = .ok s.asFile := by
  have plain : ∀ t ∈ [s.choice.asSection, s.output.asSection], t.Plain :=
    List.forall_mem_cons.mpr ⟨s.choice.asSection_plain,
      List.forall_mem_singleton.mpr s.output.asSection_plain⟩
  have apart : ["parser", "output"].Nodup := by decide
  obtain ⟨blocks, reads, parsed⟩ := Toml.parse_documentText plain apart
  obtain - | @⟨_, choice, _, _, choiceReads, - | @⟨_, output, _, _, outputReads, - | -⟩⟩ := reads
  -- Keys are read in ascending order, so the section that is written last is read first.
  have order : sorted [choice.entry, output.entry] = [output.entry, choice.entry] := by
    have parser : choice.entry.1.name = "parser" := choiceReads.header.2.2
    have second : output.entry.1.name = "output" := outputReads.header.2.2
    have greater : ¬ "parser" ≤ "output" := by decide
    simp [sorted, List.mergeSort, parser, second, greater]
  rw [parse, s.toToml_eq, parsed]
  refine (takes_sections choiceReads outputReads).readTable ?_
  rw [List.map_cons, List.map_cons, List.map_nil, order]
  exact .cons ⟨outputReads.header.2.2, rfl⟩ (.cons ⟨choiceReads.header.2.2, rfl⟩ .nil)

end SettingsFile

/-- A server's choice that passes its own checks. -/
structure ServerChoice.Acceptable (choice : ServerChoice) : Prop where
  field : Text.isBlankText choice.field = false
  relation : Text.isBlankText choice.relation = false

theorem ServerChoice.acceptable_default : ({} : ServerChoice).Acceptable :=
  ⟨by decide, by decide⟩

namespace LocatedFile

theorem nonBlank_eq_ok {path key value : String} (h : Text.isBlankText value = false) :
    nonBlank path key value = .ok value := by
  rw [nonBlank, if_neg (by simp [h])]

/-- A setting that is kept passes if the one from before does, and one that is set has passed. -/
theorem setting_nonBlank {before path key after : String} {value : Option String}
    (passed : Text.isBlankText before = false)
    (h : setting before value (nonBlank path key) = .ok after) :
    Text.isBlankText after = false := by
  cases value with
  | none =>
    obtain rfl := Except.ok.inj h
    exact passed
  | some value =>
    rw [setting, nonBlank] at h
    split at h
    · cases h
    · rename_i passes
      obtain rfl := Except.ok.inj h
      simpa using passes

theorem overlayChoice_acceptable {path : String} {s : ParserSection} {choice choice' : ServerChoice}
    (passed : choice.Acceptable) (h : overlayChoice path s choice = .ok choice') :
    choice'.Acceptable := by
  obtain ⟨field, fieldSet, h⟩ := Except.bind_eq_ok_iff.mp h
  obtain ⟨relation, relationSet, h⟩ := Except.bind_eq_ok_iff.mp h
  obtain rfl := Except.ok.inj h
  exact ⟨setting_nonBlank passed.field fieldSet, setting_nonBlank passed.relation relationSet⟩

/-- A file keeps a server's choice that passes, or sets one that does. -/
theorem overlay_acceptable {settings settings' : Settings} {located : LocatedFile}
    (passed : settings.choice.Acceptable) (h : overlay settings located = .ok settings') :
    settings'.choice.Acceptable := by
  obtain ⟨choice, overlaid, h⟩ := Except.bind_eq_ok_iff.mp h
  obtain ⟨output, -, h⟩ := Except.bind_eq_ok_iff.mp h
  obtain rfl := Except.ok.inj h
  exact overlayChoice_acceptable passed overlaid

/-- What a file sets that sets everything replaces all there was. -/
theorem overlay_asFile {s : Settings} (passes : s.choice.Acceptable) (before : Settings)
    (path : String) : overlay before ⟨path, s.asFile⟩ =
      .ok { before with choice := s.choice, output := s.output } := by
  have choice : overlayChoice path ⟨s.choice.field, s.choice.relation⟩ before.choice =
      .ok s.choice := by
    rw [overlayChoice, setting, nonBlank_eq_ok passes.field, setting,
      nonBlank_eq_ok passes.relation]
    rfl
  have oneChar (key : String) : oneChar path key (String.ofList [s.output.xmlIndent]) =
      .ok s.output.xmlIndent := by
    rw [LocatedFile.oneChar, String.toList_ofList]
  simp only [overlay, Settings.asFile, Option.getD_some, choice, overlayOutput, setting, oneChar,
    bind, Except.bind, pure, Except.pure]

end LocatedFile

namespace Settings

theorem foldlM_acceptable {files : List LocatedFile} {settings settings' : Settings}
    (passed : settings.choice.Acceptable)
    (h : files.foldlM LocatedFile.overlay settings = .ok settings') :
    settings'.choice.Acceptable := by
  induction files generalizing settings with
  | nil =>
    obtain rfl := Except.ok.inj h
    exact passed
  | cons file files ih =>
    rw [List.foldlM_cons] at h
    obtain ⟨next, first, h⟩ := Except.bind_eq_ok_iff.mp h
    exact ih (LocatedFile.overlay_acceptable passed first) h

/-- Settings that files give pass their own checks. -/
theorem merge_acceptable {files : List LocatedFile} {s : Settings} (h : merge files = .ok s) :
    s.choice.Acceptable := by
  obtain ⟨settings, folded, h⟩ := Except.bind_eq_ok_iff.mp h
  have passes := foldlM_acceptable ServerChoice.acceptable_default folded
  obtain rfl := Except.ok.inj h
  exact passes

/-- The document of settings that files give is a settings file, wherever it stands, and alone it
gives the same settings. -/
theorem merge_reloads {files : List LocatedFile} {s : Settings} (h : merge files = .ok s)
    (path : String) :
    ∃ located, LocatedFile.ofText path s.toToml = .ok located ∧
      merge [located] = .ok { s with sources := [path] } := by
  refine ⟨⟨path, s.asFile⟩, ?_, ?_⟩
  · rw [LocatedFile.ofText, SettingsFile.parse_toToml]
  · simp only [merge, List.reverse_singleton, List.foldlM_cons, List.foldlM_nil,
      LocatedFile.overlay_asFile (merge_acceptable h), bind, Except.bind, pure, Except.pure,
      List.map_cons, List.map_nil]

/-- Two files: quotes of both kinds, backslashes, controls and the ends of lines survive. -/
theorem merge_reloads_quotes :
    let near : LocatedFile := ⟨"/w/.cql.toml", {
      parser := some { field := some "'''\"\\\x00é" }
      output := some { newline := some "\r\n", xmlIndent := some "'" } }⟩
    let far : LocatedFile := ⟨"/.cql.toml", {
      parser := some { field := some "far", relation := some "\\\"" }
      output := some { format := some .fq, indent := some "\n\"\"\"\"'''" } }⟩
    let s : Settings := {
      choice := ⟨"'''\"\\\x00é", "\\\""⟩
      output := ⟨.fq, "\n\"\"\"\"'''", "\r\n", '\''⟩
      sources := ["/w/.cql.toml", "/.cql.toml"] }
    merge [near, far] = .ok s ∧
      ∃ located, LocatedFile.ofText "effective.toml" s.toToml = .ok located ∧
        merge [located] = .ok { s with sources := ["effective.toml"] } := by
  intro near far s
  have merged : merge [near, far] = .ok s := by rfl
  exact ⟨merged, merge_reloads merged "effective.toml"⟩

end Settings
end ContextualQuery
