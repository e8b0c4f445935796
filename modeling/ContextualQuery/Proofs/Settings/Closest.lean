import ContextualQuery.Proofs.Except
import ContextualQuery.Settings.Discovery

/-!
# The closest file decides, and every file is checked

Files are listed closest first and laid over one another from the farthest on. So what a file sets
may be hidden by a closer one, but what is wrong with it is not.

* `LocatedFile.error?_overlay`, `LocatedFile.overlay_sets`: what one file does;
* `error?_loadFiles`: the error is that of the first file that cannot be read, else that of the last
  file that sets what is not acceptable;
* `eq_closest_of_foldlM`: what all files together set is what the first of them sets;
* `loadFiles_closest`: when loading fails and with what error, and else which settings it gives.
-/
namespace ContextualQuery

namespace SettingsFile

def field? (f : SettingsFile) : Option String := (f.parser.getD {}).field

def relation? (f : SettingsFile) : Option String := (f.parser.getD {}).relation

def format? (f : SettingsFile) : Option OutputFormat := (f.output.getD {}).format

def indent? (f : SettingsFile) : Option String := (f.output.getD {}).indent

def newline? (f : SettingsFile) : Option String := (f.output.getD {}).newline

def xmlIndent? (f : SettingsFile) : Option String := (f.output.getD {}).xmlIndent

def IsUnacceptable (f : SettingsFile) : Prop :=
  (∃ v, f.field? = some v ∧ Text.isBlankText v = true) ∨
    (∃ v, f.relation? = some v ∧ Text.isBlankText v = true) ∨
    ∃ v, f.xmlIndent? = some v ∧ v.toList.length ≠ 1

end SettingsFile

namespace LocatedFile

/-- What is wrong with a text that may not be blank. -/
def blankFault? (path key v : String) : Option SettingsError :=
  if Text.isBlankText v then some (.invalid path key "value cannot be empty") else none

/-- What is wrong with a text that has to be one character. -/
def sizeFault? (path key v : String) : Option SettingsError :=
  if v.toList.length = 1 then none
  else some (.invalid path key ("expected exactly one character, got " ++ Text.visible v))

/-- The first setting of a file that is not acceptable, in the order in which they are checked. -/
def fault? (located : LocatedFile) : Option SettingsError :=
  (located.file.field?.bind (blankFault? located.path "parser.server_choice_field")).or <|
    (located.file.relation?.bind (blankFault? located.path "parser.server_choice_relation")).or <|
      located.file.xmlIndent?.bind (sizeFault? located.path "output.xml_indent_char")

theorem isSome_fault?_iff (located : LocatedFile) :
    (∃ e, located.fault? = some e) ↔ located.file.IsUnacceptable := by
  rw [← Option.isSome_iff_exists, fault?, Option.isSome_or, Option.isSome_or, Bool.or_eq_true,
    Bool.or_eq_true, SettingsFile.IsUnacceptable]
  refine or_congr ?_ (or_congr ?_ ?_)
  · cases located.file.field? <;> simp [blankFault?]
  · cases located.file.relation? <;> simp [blankFault?]
  · cases located.file.xmlIndent? <;> simp [sizeFault?]

theorem error?_nonBlank (path key v : String) :
    Except.error? (nonBlank path key v) = blankFault? path key v := by
  unfold nonBlank blankFault?
  by_cases blank : Text.isBlankText v = true
  · rw [if_pos blank, if_pos blank]
    rfl
  · rw [if_neg blank, if_neg blank]
    rfl

theorem error?_oneChar (path key v : String) :
    Except.error? (oneChar path key v) = sizeFault? path key v := by
  unfold oneChar sizeFault?
  split
  · rename_i c chars
    rw [if_pos (by rw [chars]; rfl)]
    rfl
  · rename_i other
    have size : v.toList.length ≠ 1 := by
      intro one
      obtain ⟨c, chars⟩ := List.length_eq_one_iff.mp one
      exact other c chars
    rw [if_neg size]
    rfl

theorem error?_setting {α β : Type} {check : α → Except SettingsError β}
    {fault : α → Option SettingsError} (h : ∀ v, Except.error? (check v) = fault v) (before : β)
    (value : Option α) : Except.error? (setting before value check) = value.bind fault := by
  cases value with
  | none => rfl
  | some v => exact h v

/-- Whether a file can be laid over others, and what is said if not, does not depend on the
others. -/
theorem error?_overlay (settings : Settings) (located : LocatedFile) :
    Except.error? (overlay settings located) = located.fault? := by
  rw [fault?, ← Option.or_assoc]
  apply Except.error?_bind
  · apply Except.error?_bind
    · exact error?_setting (error?_nonBlank _ _) _ _
    · intro field
      exact Except.error?_map (error?_setting (error?_nonBlank _ _) _ _)
  · intro choice
    apply Except.error?_map
    exact Except.error?_map (error?_setting (error?_oneChar _ _) _ _)

/-- The settings are those from before, but for what the file sets. -/
structure Sets (located : LocatedFile) (before after : Settings) : Prop where
  field : after.choice.field = located.file.field?.getD before.choice.field
  relation : after.choice.relation = located.file.relation?.getD before.choice.relation
  format : after.output.format = located.file.format?.getD before.output.format
  indent : after.output.indent = located.file.indent?.getD before.output.indent
  newline : after.output.newline = located.file.newline?.getD before.output.newline
  xmlIndent : String.ofList [after.output.xmlIndent] =
    located.file.xmlIndent?.getD (.ofList [before.output.xmlIndent])

theorem eq_of_setting {α β : Type} {check : α → Except SettingsError β} (shown : β → α)
    (checked : ∀ v b, check v = .ok b → shown b = v) {before after : β} {value : Option α}
    (h : setting before value check = .ok after) : shown after = value.getD (shown before) := by
  cases value with
  | none =>
    obtain rfl := Except.ok.inj h
    rfl
  | some v => exact checked v after h

theorem eq_of_nonBlank {path key v w : String} (h : nonBlank path key v = .ok w) : w = v := by
  unfold nonBlank at h
  split at h
  · cases h
  · exact (Except.ok.inj h).symm

theorem eq_of_oneChar {path key v : String} {c : Char} (h : oneChar path key v = .ok c) :
    String.ofList [c] = v := by
  unfold oneChar at h
  split at h
  · rename_i chars
    obtain rfl := Except.ok.inj h
    rw [← chars, String.ofList_toList]
  · cases h

theorem overlay_sets {before after : Settings} {located : LocatedFile}
    (h : overlay before located = .ok after) : located.Sets before after := by
  obtain ⟨choice, chosen, h⟩ := Except.bind_eq_ok_iff.mp h
  obtain ⟨output, printed, h⟩ := Except.bind_eq_ok_iff.mp h
  obtain ⟨field, named, chosen⟩ := Except.bind_eq_ok_iff.mp chosen
  obtain ⟨relation, related, chosen⟩ := Except.bind_eq_ok_iff.mp chosen
  obtain ⟨xmlIndent, indented, printed⟩ := Except.bind_eq_ok_iff.mp printed
  obtain rfl := Except.ok.inj chosen
  obtain rfl := Except.ok.inj printed
  obtain rfl := Except.ok.inj h
  constructor
  case field => exact eq_of_setting id (fun _ _ => eq_of_nonBlank) named
  case relation => exact eq_of_setting id (fun _ _ => eq_of_nonBlank) related
  case format => rfl
  case indent => rfl
  case newline => rfl
  case xmlIndent => exact eq_of_setting (String.ofList [·]) (fun _ _ => eq_of_oneChar) indented

end LocatedFile

namespace Settings

theorem error?_merge (files : List LocatedFile) :
    Except.error? (merge files) = files.reverse.findSome? LocatedFile.fault? :=
  Except.error?_map (Except.error?_foldlM LocatedFile.error?_overlay files.reverse {})

/-- What is looked up in the file at a path, if it can be read. -/
def lookup {β : Type} (tree : FileTree) (look : LocatedFile → Option β) (path : String) :
    Option β :=
  (readFile tree path).toOption.bind look

variable {tree : FileTree} {paths : List String}

/-- What is found first in files is found first where they were read. -/
theorem findSome?_of_map {β : Type} {files : List LocatedFile}
    (read : paths.map (readFile tree) = files.map .ok) (look : LocatedFile → Option β) :
    files.findSome? look = paths.findSome? (lookup tree look) := by
  calc files.findSome? look
      = (files.map Except.ok).findSome? fun x : Except SettingsError LocatedFile =>
          x.toOption.bind look := by rw [List.findSome?_map]; rfl
    _ = (paths.map (readFile tree)).findSome? fun x => x.toOption.bind look := by rw [read]
    _ = paths.findSome? (lookup tree look) := List.findSome?_map

/-- Loading gives the error of the first file that cannot be read, else that of the last file that
sets what is not acceptable. -/
theorem error?_loadFiles (tree : FileTree) (paths : List String) :
    Except.error? (loadFiles tree paths) =
      (paths.findSome? fun path => Except.error? (readFile tree path)).or
        (paths.reverse.findSome? (lookup tree LocatedFile.fault?)) := by
  rw [← Except.error?_mapM, loadFiles]
  cases read : paths.mapM (readFile tree) with
  | error e => rfl
  | ok files =>
    have backwards : paths.reverse.map (readFile tree) = files.reverse.map .ok := by
      rw [List.map_reverse, List.map_reverse, Except.mapM_eq_ok_iff.mp read]
    rw [← findSome?_of_map backwards]
    exact error?_merge files

/-- If each file sets something or else leaves it as it was, it ends up as in the first file that
sets it. -/
theorem eq_closest_of_foldlM {γ : Type} {get : Settings → γ} {set? : SettingsFile → Option γ}
    (step : ∀ before after located, LocatedFile.overlay before located = .ok after →
      get after = (set? located.file).getD (get before))
    {files : List LocatedFile} {before after : Settings}
    (h : files.reverse.foldlM LocatedFile.overlay before = .ok after) :
    get after = (files.findSome? fun located => set? located.file).getD (get before) := by
  induction files generalizing after with
  | nil =>
    obtain rfl := Except.ok.inj h
    rfl
  | cons located files ih =>
    rw [List.reverse_cons, List.foldlM_append] at h
    obtain ⟨middle, farther, h⟩ := Except.bind_eq_ok_iff.mp h
    rw [List.foldlM_cons] at h
    obtain ⟨last, closest, h⟩ := Except.bind_eq_ok_iff.mp h
    obtain rfl := Except.ok.inj h
    rw [step middle last located closest, ih farther, List.findSome?_cons]
    cases set? located.file with
    | none => rfl
    | some v => rfl

theorem readFile_path {path : String} {located : LocatedFile}
    (h : readFile tree path = .ok located) : located.path = path := by
  unfold readFile at h
  split at h
  · cases h
  · unfold LocatedFile.ofText at h
    split at h
    · cases h
    · obtain rfl := Except.ok.inj h
      rfl

theorem merge_sources {files : List LocatedFile} {s : Settings} (h : merge files = .ok s) :
    s.sources = files.map (·.path) := by
  obtain ⟨merged, -, h⟩ := Except.bind_eq_ok_iff.mp h
  obtain rfl := Except.ok.inj h
  rfl

/-- The value in the first file that sets it, if any does. -/
def closest {γ : Type} (tree : FileTree) (paths : List String) (set? : SettingsFile → Option γ)
    (otherwise : γ) : γ :=
  (paths.findSome? (lookup tree fun located => set? located.file)).getD otherwise

/-- Each setting is that of the first file that has it, else the default. -/
structure IsClosest (tree : FileTree) (paths : List String) (s : Settings) : Prop where
  field : s.choice.field = closest tree paths (·.field?) ({} : Settings).choice.field
  relation : s.choice.relation = closest tree paths (·.relation?) ({} : Settings).choice.relation
  format : s.output.format = closest tree paths (·.format?) ({} : Settings).output.format
  indent : s.output.indent = closest tree paths (·.indent?) ({} : Settings).output.indent
  newline : s.output.newline = closest tree paths (·.newline?) ({} : Settings).output.newline
  xmlIndent : String.ofList [s.output.xmlIndent] =
    closest tree paths (·.xmlIndent?) (.ofList [({} : Settings).output.xmlIndent])

theorem loadFiles_isClosest {s : Settings} (h : loadFiles tree paths = .ok s) :
    s.IsClosest tree paths ∧ s.sources = paths := by
  obtain ⟨files, read, h⟩ := Except.bind_eq_ok_iff.mp h
  have sources : s.sources = paths := by
    rw [merge_sources h, Except.map_eq_of_mapM (fun _ _ => readFile_path) read, List.map_id']
  obtain ⟨merged, overlaid, h⟩ := Except.bind_eq_ok_iff.mp h
  obtain rfl := Except.ok.inj h
  have run {γ : Type} (get : Settings → γ) (set? : SettingsFile → Option γ)
      (step : ∀ before after located, LocatedFile.overlay before located = .ok after →
        get after = (set? located.file).getD (get before)) :
      get merged = closest tree paths set? (get {}) := by
    rw [closest, ← findSome?_of_map (Except.mapM_eq_ok_iff.mp read)]
    exact eq_closest_of_foldlM step overlaid
  refine ⟨?_, sources⟩
  constructor
  case field => exact run (·.choice.field) _ fun _ _ _ laid => (LocatedFile.overlay_sets laid).field
  case relation =>
    exact run (·.choice.relation) _ fun _ _ _ laid => (LocatedFile.overlay_sets laid).relation
  case format =>
    exact run (·.output.format) _ fun _ _ _ laid => (LocatedFile.overlay_sets laid).format
  case indent =>
    exact run (·.output.indent) _ fun _ _ _ laid => (LocatedFile.overlay_sets laid).indent
  case newline =>
    exact run (·.output.newline) _ fun _ _ _ laid => (LocatedFile.overlay_sets laid).newline
  case xmlIndent =>
    exact run (fun s => String.ofList [s.output.xmlIndent]) _ fun _ _ _ laid =>
      (LocatedFile.overlay_sets laid).xmlIndent

/-- The error is that of the first file that cannot be read as settings. -/
def FirstUnread (tree : FileTree) (paths : List String) (e : SettingsError) : Prop :=
  ∃ closer path farther, paths = closer ++ path :: farther ∧
    readFile tree path = .error e ∧ ∀ p ∈ closer, ∃ located, readFile tree p = .ok located

/-- All files are read, and the error is the first of the last file with any. -/
def LastUnacceptable (tree : FileTree) (paths : List String) (e : SettingsError) : Prop :=
  (∀ p ∈ paths, ∃ located, readFile tree p = .ok located) ∧
    ∃ closer path farther file, paths = closer ++ path :: farther ∧
      readFile tree path = .ok ⟨path, file⟩ ∧ LocatedFile.fault? ⟨path, file⟩ = some e ∧
      ∀ p ∈ farther, ∀ located, readFile tree p = .ok located → ¬ located.file.IsUnacceptable

theorem lookup_fault?_eq_some_iff {path : String} {e : SettingsError} :
    lookup tree LocatedFile.fault? path = some e ↔
      ∃ file, readFile tree path = .ok ⟨path, file⟩ ∧ LocatedFile.fault? ⟨path, file⟩ = some e := by
  unfold lookup
  constructor
  · intro h
    cases read : readFile tree path with
    | error e => simp [read, Except.toOption] at h
    | ok located =>
      obtain rfl := readFile_path read
      exact ⟨located.file, rfl, by simpa [read, Except.toOption] using h⟩
  · rintro ⟨file, read, fault⟩
    rw [read]
    exact fault

theorem lookup_fault?_eq_none_iff {path : String} :
    lookup tree LocatedFile.fault? path = none ↔
      ∀ located, readFile tree path = .ok located → ¬ located.file.IsUnacceptable := by
  unfold lookup
  cases readFile tree path with
  | error e => simp [Except.toOption]
  | ok located =>
    have : LocatedFile.fault? located = none ↔ ¬ located.file.IsUnacceptable := by
      rw [← LocatedFile.isSome_fault?_iff, ← Option.isSome_iff_exists,
        Option.not_isSome_iff_eq_none]
    simpa [Except.toOption] using this

theorem firstUnread_iff {e : SettingsError} :
    FirstUnread tree paths e ↔
      (paths.findSome? fun path => Except.error? (readFile tree path)) = some e := by
  simp only [List.findSome?_eq_some_iff, Except.error?_eq_some_iff, Except.error?_eq_none_iff,
    FirstUnread]

theorem lastUnacceptable_iff {e : SettingsError} :
    LastUnacceptable tree paths e ↔
      (paths.findSome? fun path => Except.error? (readFile tree path)) = none ∧
        paths.reverse.findSome? (lookup tree LocatedFile.fault?) = some e := by
  simp only [List.findSome?_eq_none_iff, Except.error?_eq_none_iff, List.findSome?_eq_some_iff,
    lookup_fault?_eq_some_iff, lookup_fault?_eq_none_iff, LastUnacceptable]
  refine and_congr_right fun _ => ?_
  constructor
  · rintro ⟨closer, path, farther, file, rfl, read, fault, others⟩
    exact ⟨farther.reverse, path, closer.reverse, by simp, ⟨file, read, fault⟩,
      by simpa using others⟩
  · rintro ⟨farther, path, closer, split, ⟨file, read, fault⟩, others⟩
    rw [List.reverse_eq_iff] at split
    exact ⟨closer.reverse, path, farther.reverse, file, by simp [split], read, fault,
      by simpa using others⟩

theorem loadFiles_eq_error_iff {e : SettingsError} :
    loadFiles tree paths = .error e ↔
      FirstUnread tree paths e ∨ LastUnacceptable tree paths e := by
  rw [← Except.error?_eq_some_iff, error?_loadFiles, Option.or_eq_some_iff, firstUnread_iff,
    lastUnacceptable_iff]

theorem exists_loadFiles_eq_error_iff :
    (∃ e, loadFiles tree paths = .error e) ↔
      ∃ path ∈ paths, (∃ e, readFile tree path = .error e) ∨
        ∃ located, readFile tree path = .ok located ∧ located.file.IsUnacceptable := by
  constructor
  · rintro ⟨e, h⟩
    obtain unread | unacceptable := loadFiles_eq_error_iff.mp h
    · obtain ⟨closer, path, farther, rfl, unread, -⟩ := unread
      exact ⟨path, by simp, .inl ⟨e, unread⟩⟩
    · obtain ⟨-, closer, path, farther, file, rfl, read, fault, -⟩ := unacceptable
      exact ⟨path, by simp, .inr ⟨_, read, (LocatedFile.isSome_fault?_iff _).mp ⟨e, fault⟩⟩⟩
  · rintro ⟨path, listed, wrong⟩
    cases loaded : loadFiles tree paths with
    | error e => exact ⟨e, rfl⟩
    | ok s =>
      have faultless := error?_loadFiles tree paths
      rw [loaded, Except.error?, eq_comm, Option.or_eq_none_iff, List.findSome?_eq_none_iff,
        List.findSome?_eq_none_iff] at faultless
      obtain ⟨readable, acceptable⟩ := faultless
      exfalso
      obtain ⟨e, unread⟩ | ⟨located, read, unacceptable⟩ := wrong
      · obtain ⟨located, read⟩ := Except.error?_eq_none_iff.mp (readable path listed)
        rw [read] at unread
        cases unread
      · exact lookup_fault?_eq_none_iff.mp (acceptable path (List.mem_reverse.mpr listed)) located
          read unacceptable

/-- Loading fails exactly if some file cannot be read or sets something that is not acceptable, even
where a closer file hides it. The error is that of the first file that cannot be read, else the
first of the last file with one. Otherwise each setting is that of the first file that has it. -/
theorem loadFiles_closest (tree : FileTree) (paths : List String) :
    ((∃ e, loadFiles tree paths = .error e) ↔
      ∃ path ∈ paths, (∃ e, readFile tree path = .error e) ∨
        ∃ located, readFile tree path = .ok located ∧ located.file.IsUnacceptable) ∧
    (∀ e, loadFiles tree paths = .error e ↔
      FirstUnread tree paths e ∨ LastUnacceptable tree paths e) ∧
    ∀ s, loadFiles tree paths = .ok s → s.IsClosest tree paths ∧ s.sources = paths :=
  ⟨exists_loadFiles_eq_error_iff, fun _ => loadFiles_eq_error_iff, fun _ => loadFiles_isClosest⟩

-- A closer file hides what is wrong in a farther one from the settings, not from the checks.
example :
    Except.error? (merge [⟨"near", { parser := some { field := some "title" } }⟩,
        ⟨"far", { parser := some { field := some " " }
                  output := some { xmlIndent := some "xy" } }⟩]) =
      some (.invalid "far" "parser.server_choice_field" "value cannot be empty") := by
  decide +kernel

end Settings
end ContextualQuery
