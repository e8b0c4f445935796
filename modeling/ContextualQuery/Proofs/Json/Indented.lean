import ContextualQuery.Proofs.Json.Members
import ContextualQuery.Proofs.Json.Spelling
import Mathlib.Data.List.Forall2
import Mathlib.Data.List.MinMax
import Mathlib.Order.Nat

/-!
# Indented text is read back

A value without fractions, written with an entry a line, is read as that value by any reader that
allows as many levels as it has.

* `spells_block`: entries a line each between brackets, in an array or an object alike;
* `Exact.spells`: by recursion over the value, its text spells it;
* `Exact.parse_indented`: the whole text, and blanks after it, are read as the value.
-/
namespace ContextualQuery.Json

mutual

/-- The most arrays and objects that nest in a value. -/
def height : Json → Nat
  | .null | .bool _ | .number _ | .string _ => 0
  | .array items => itemsHeight items + 1
  | .object members => membersHeight members + 1

def itemsHeight : List Json → Nat
  | [] => 0
  | v :: rest => max v.height (itemsHeight rest)

def membersHeight : List (String × Json) → Nat
  | [] => 0
  | (_, v) :: rest => max v.height (membersHeight rest)

end

theorem itemsHeight_eq (vs : List Json) : itemsHeight vs = (vs.map height).foldr max 0 := by
  induction vs with
  | nil => rfl
  | cons v vs ih => rw [itemsHeight, ih, List.map_cons, List.foldr_cons]

theorem membersHeight_eq (ms : List (String × Json)) :
    membersHeight ms = (ms.map (·.2.height)).foldr max 0 := by
  induction ms with
  | nil => rfl
  | cons m ms ih => rw [membersHeight, ih, List.map_cons, List.foldr_cons]

theorem itemsHeight_le {vs : List Json} {k : Nat} (each : ∀ v ∈ vs, v.height ≤ k) :
    itemsHeight vs ≤ k := by
  rw [itemsHeight_eq]
  exact List.max_le_of_forall_le _ k (List.forall_mem_map.mpr each)

theorem membersHeight_le {ms : List (String × Json)} {k : Nat} (each : ∀ m ∈ ms, m.2.height ≤ k) :
    membersHeight ms ≤ k := by
  rw [membersHeight_eq]
  exact List.max_le_of_forall_le _ k (List.forall_mem_map.mpr each)

theorem indentedItems_eq (level : Nat) (vs : List Json) :
    indentedItems level vs = vs.map (indented level) := by
  induction vs with
  | nil => rfl
  | cons v vs ih => rw [indentedItems, ih, List.map_cons]

theorem indentedMembers_eq (level : Nat) (ms : List (String × Json)) :
    indentedMembers level ms = ms.map fun m => stringText m.1 ++ ": " ++ m.2.indented level := by
  induction ms with
  | nil => rfl
  | cons m ms ih => rw [indentedMembers, ih, List.map_cons]

/-- Values that their text says all of: each key of an object stands once, and the numbers are
integers of 64 bits. -/
inductive Exact : Json → Prop where
  | null : Exact .null
  | bool (b : Bool) : Exact (.bool b)
  | word {n : Nat} (fits : n ≤ maxWord) : Exact (.ofNat n)
  | minus {n : Nat} (positive : 0 < n) (fits : n ≤ Nat.pow 2 63) : Exact (.number (.negative n))
  | string (s : String) : Exact (.string s)
  | array {items : List Json} (each : ∀ v ∈ items, Exact v) : Exact (.array items)
  | object {members : List (String × Json)} (distinct : (members.map Prod.fst).Nodup)
      (each : ∀ m ∈ members, Exact m.2) : Exact (.object members)

theorem Exact.array_height {vs : List Json} {k : Nat}
    (each : ∀ v ∈ vs, v.Exact ∧ v.height ≤ k) :
    (Json.array vs).Exact ∧ (Json.array vs).height ≤ k + 1 :=
  ⟨.array fun v hv => (each v hv).1, Nat.succ_le_succ (itemsHeight_le fun v hv => (each v hv).2)⟩

theorem Exact.object_height {ms : List (String × Json)} {k : Nat}
    (distinct : (ms.map Prod.fst).Nodup) (each : ∀ m ∈ ms, m.2.Exact ∧ m.2.height ≤ k) :
    (Json.object ms).Exact ∧ (Json.object ms).height ≤ k + 1 :=
  ⟨.object distinct fun m hm => (each m hm).1,
    Nat.succ_le_succ (membersHeight_le fun m hm => (each m hm).2)⟩

theorem isSpace_newline (level : Nat) : ∀ c ∈ (newline level).toList, isSpace c = true := by
  intro c hc
  simp only [newline, String.toList_append, String.toList_ofList, List.mem_append] at hc
  obtain feed | space := hc
  · obtain rfl : c = '\n' := by simpa using feed
    rfl
  · rw [List.eq_of_mem_replicate space]
    rfl

theorem toList_intercalate_cons (separator first : String) (others : List String) :
    (separator.intercalate (first :: others)).toList =
      first.toList ++ others.flatMap fun t => separator.toList ++ t.toList := by
  induction others generalizing first with
  | nil => simp
  | cons t others ih =>
    rw [String.intercalate_cons_cons, String.toList_append, ih, List.flatMap_cons]
    simp only [String.toList_append, List.append_assoc]

section Block

variable {α : Type} {reader : Nat → Bool → List Char → Except Stop (List α × List Char)}
  {texts : List String} {xs : List α} {tall : α → Nat}

theorem spells_lines {blanks : List Char} (space : ∀ c ∈ blanks, isSpace c = true)
    (entries : List.Forall₂ (fun t x => SpellsEntry reader t.toList x (tall x)) texts xs) :
    SpellsMore reader (texts.flatMap fun t => ',' :: (blanks ++ t.toList)) xs
      ((xs.map tall).foldr max 0) := by
  induction entries with
  | nil => exact .nil
  | cons first _ ih =>
    rw [List.flatMap_cons]
    exact (SpellsMore.entry space first).append ih

/-- Entries a line each between brackets, or the bare brackets. -/
theorem spells_block {o c : Char} {wrap : List α → Json} (b : Brackets reader o c wrap)
    (level : Nat) {opening closing : String} (opens : opening.toList = [o])
    (closes : closing.toList = [c])
    (entries : List.Forall₂ (fun t x => SpellsEntry reader t.toList x (tall x)) texts xs) :
    Spells (block level opening closing texts).toList (wrap xs)
      ((xs.map tall).foldr max 0 + 1) := by
  cases entries with
  | nil =>
    have chars : (block level opening closing []).toList = [o, c] := by
      simp [block, opens, closes]
    rw [chars]
    exact b.spells_nil
  | @cons t x texts xs first others =>
    have chars : (block level opening closing (t :: texts)).toList =
        o :: ((newline (level + 1)).toList ++ (t.toList ++
          ((texts.flatMap fun t => ',' :: ((newline (level + 1)).toList ++ t.toList)) ++
            ((newline level).toList ++ [c])))) := by
      simp [block, opens, closes, toList_intercalate_cons, -String.toList_intercalate]
    rw [chars]
    exact b.spells_cons (isSpace_newline _) (isSpace_newline _) first
      (spells_lines (isSpace_newline _) others)

end Block

theorem Spells.memberText (key : String) {text : String} {v : Json} {height : Nat}
    (spells : Spells text.toList v height) :
    SpellsEntry members (stringText key ++ ": " ++ text).toList (key, v) height := by
  have chars : (stringText key ++ ": " ++ text).toList = '"' :: afterMark key text.toList := by
    simp [stringText, afterMark]
  rw [chars]
  exact spells.member key

theorem assignAll_eq_self {ms : List (String × Json)} (distinct : (ms.map Prod.fst).Nodup) :
    assignAll ms = ms := by
  rw [assignAll_eq_lastOfEach]
  exact lastOfEach_eq_self _ distinct

/-- The indented text of a value spells it, at whatever level it starts. -/
theorem Exact.spells {v : Json} (exact : Exact v) (level : Nat) :
    Spells (v.indented level).toList v v.height := by
  induction exact generalizing level with
  | null => exact spells_null
  | bool b => exact spells_bool b
  | word fits => exact spells_word fits
  | minus positive fits => exact spells_minus positive fits
  | string s => exact spells_string s
  | @array items _ ih =>
    rw [indented, indentedItems_eq, height, itemsHeight_eq]
    apply spells_block brackets_array level rfl rfl
    rw [List.forall₂_map_left_iff, List.forall₂_same]
    intro v hv
    exact (ih v hv (level + 1)).item
  | @object ms distinct _ ih =>
    have entries : List.Forall₂ (fun t m => SpellsEntry members t.toList m m.2.height)
        (ms.map fun m => stringText m.1 ++ ": " ++ m.2.indented (level + 1)) ms := by
      rw [List.forall₂_map_left_iff, List.forall₂_same]
      intro m hm
      exact (ih m hm (level + 1)).memberText m.1
    have block : Spells (block level "\x7b" "\x7d" _).toList (.object (assignAll ms)) _ :=
      spells_block brackets_object level rfl rfl entries
    rw [assignAll_eq_self distinct] at block
    rwa [indented, indentedMembers_eq, height, membersHeight_eq]

/-- An indented text is read back as its value. -/
theorem Exact.parse_indented {v : Json} (exact : Exact v) (level : Nat) {blanks : String}
    (space : ∀ c ∈ blanks.toList, isSpace c = true) {limit : Nat} (shallow : v.height < limit) :
    parse limit (v.indented level ++ blanks) = .ok v :=
  (exact.spells level).parse_append space shallow

end ContextualQuery.Json
