import ContextualQuery.Proofs.Json.Scalar

/-!
# Written values

What a piece of text is to the reader: the value it is read as, and how deep it nests. A value is
read where the reader allows more levels than it has, and refused everywhere else.

* `nesting`: the greatest number of arrays and objects that are open at once in a text;
* `Spells`: a text is read as a value of a height, and nests as deep;
* `Brackets.spells_cons`: entries between brackets spell an array or object, one level higher;
* `Spells.parse`: a written text is read exactly if it nests less than the limit.
-/
namespace ContextualQuery.Json

/-- Where a character stands: outside strings, in one, or after a backslash in one. -/
inductive Mode where
  | plain
  | quoted
  | escaped
deriving DecidableEq

/-- The most arrays and objects that are open at once, with `depth` of them open before. -/
def nestingFrom : Mode → Nat → List Char → Nat
  | _, depth, [] => depth
  | .plain, depth, c :: cs =>
    if c = '"' then nestingFrom .quoted depth cs
    else if c = '[' ∨ c = '\x7b' then nestingFrom .plain (depth + 1) cs
    else if c = ']' ∨ c = '\x7d' then max depth (nestingFrom .plain (depth - 1) cs)
    else nestingFrom .plain depth cs
  | .quoted, depth, c :: cs =>
    if c = '"' then nestingFrom .plain depth cs
    else if c = '\\' then nestingFrom .escaped depth cs
    else nestingFrom .quoted depth cs
  | .escaped, depth, _ :: cs => nestingFrom .quoted depth cs

/-- The most arrays and objects that are open at once in a text. -/
def nesting (text : String) : Nat := nestingFrom .plain 0 text.toList

theorem le_nestingFrom (mode : Mode) (depth : Nat) (cs : List Char) :
    depth ≤ nestingFrom mode depth cs := by
  fun_induction nestingFrom mode depth cs with
  | case1 => exact Nat.le_refl _
  | case2 _ _ ih => exact ih
  | case3 _ _ _ _ _ ih => exact Nat.le_of_succ_le ih
  | case4 => exact Nat.le_max_left _ _
  | case5 _ _ _ _ _ _ ih => exact ih
  | case6 _ _ ih => exact ih
  | case7 _ _ _ ih => exact ih
  | case8 _ _ _ _ _ ih => exact ih
  | case9 _ _ _ ih => exact ih

theorem hexDigit_plain :
    ∀ n < 16, Text.hexDigit false n ≠ '"' ∧ Text.hexDigit false n ≠ '\\' := by
  decide

theorem nestingFrom_escapeChar (depth : Nat) (c : Char) (rest : List Char) :
    nestingFrom .quoted depth (escapeChar c ++ rest) = nestingFrom .quoted depth rest := by
  unfold escapeChar
  split
  iterate 7 rfl
  rename_i notMark notBackslash _ _ _ _ _
  split
  · obtain ⟨mark, backslash⟩ := hexDigit_plain (c.toNat / 16) (by omega)
    obtain ⟨mark', backslash'⟩ := hexDigit_plain (c.toNat % 16) (by omega)
    simp [nestingFrom, Text.hexCode, mark, backslash, mark', backslash']
  · rw [List.cons_append, nestingFrom, if_neg notMark, if_neg notBackslash, List.nil_append]

/-- Brackets in a string do not nest. -/
theorem nestingFrom_stringText (depth : Nat) (s : String) (rest : List Char) :
    nestingFrom .plain depth ((stringText s).toList ++ rest) = nestingFrom .plain depth rest := by
  have inside (cs : List Char) :
      nestingFrom .quoted depth (cs.flatMap escapeChar ++ '"' :: rest) =
        nestingFrom .plain depth rest := by
    induction cs with
    | nil => rfl
    | cons c cs ih => rw [List.flatMap_cons, List.append_assoc, nestingFrom_escapeChar, ih]
  simpa [stringText, nestingFrom] using inside s.toList

/-- Whether a character, outside strings, opens or closes something. -/
def isMark (c : Char) : Bool := c == '"' || c == '[' || c == '\x7b' || c == ']' || c == '\x7d'

theorem nestingFrom_skip (depth : Nat) {cs : List Char} (plain : ∀ c ∈ cs, isMark c = false)
    (rest : List Char) :
    nestingFrom .plain depth (cs ++ rest) = nestingFrom .plain depth rest := by
  induction cs with
  | nil => rfl
  | cons c cs ih =>
    have first := plain c (by simp)
    simp only [isMark, Bool.or_eq_false_iff, beq_eq_false_iff_ne] at first
    obtain ⟨⟨⟨⟨quote, array⟩, object⟩, endArray⟩, endObject⟩ := first
    rw [List.cons_append, nestingFrom, if_neg quote, if_neg (not_or.mpr ⟨array, object⟩),
      if_neg (not_or.mpr ⟨endArray, endObject⟩)]
    exact ih fun d hd => plain d (List.mem_cons_of_mem _ hd)

theorem isMark_of_isSpace {c : Char} (h : isSpace c = true) : isMark c = false := by
  simp only [isSpace, Bool.or_eq_true, beq_iff_eq] at h
  obtain ((rfl | rfl) | rfl) | rfl := h <;> rfl

theorem isMark_of_isDigit {c : Char} (h : isDigit c = true) : isMark c = false := by
  cases mark : isMark c with
  | false => rfl
  | true =>
    simp only [isMark, Bool.or_eq_true, beq_iff_eq] at mark
    obtain (((rfl | rfl) | rfl) | rfl) | rfl := mark <;> cases h

theorem isSpace_of_isDigit {c : Char} (h : isDigit c = true) : isSpace c = false := by
  cases space : isSpace c with
  | false => rfl
  | true =>
    simp only [isSpace, Bool.or_eq_true, beq_iff_eq] at space
    obtain ((rfl | rfl) | rfl) | rfl := space <;> cases h

theorem skipSpace_blanks {blanks : List Char} (space : ∀ c ∈ blanks, isSpace c = true) {c : Char}
    (visible : isSpace c = false) (cs : List Char) : skipSpace (blanks ++ c :: cs) = c :: cs := by
  rw [skipSpace, List.dropWhile_append_of_pos space]
  exact List.dropWhile_cons_of_neg (by simp [visible])

/-- The characters are read as a value of a height: in a reader that allows more levels they give
the value, in any other they fail, and they nest as many levels. -/
structure Spells (cs : List Char) (v : Json) (height : Nat) : Prop where
  start : ∃ c tail, cs = c :: tail ∧ isSpace c = false ∧ c ≠ ']'
  read : ∀ {depth : Nat} {input rest : List Char}, skipSpace input = cs ++ rest →
    EndsNumber rest → height < depth → value depth input = .ok (v, rest)
  refuse : ∀ {depth : Nat} {input rest : List Char}, skipSpace input = cs ++ rest →
    EndsNumber rest → 0 < depth → depth ≤ height → ∃ stop, value depth input = .error stop
  nests : ∀ (depth : Nat) (rest : List Char),
    nestingFrom .plain depth (cs ++ rest) =
      max (depth + height) (nestingFrom .plain depth rest)

theorem max_add_zero_nestingFrom (mode : Mode) (depth : Nat) (rest : List Char) :
    max (depth + 0) (nestingFrom mode depth rest) = nestingFrom mode depth rest :=
  Nat.max_eq_right (le_nestingFrom mode depth rest)

theorem Spells.skipSpace_append {cs : List Char} {v : Json} {height : Nat}
    (spells : Spells cs v height) (rest : List Char) : skipSpace (cs ++ rest) = cs ++ rest := by
  obtain ⟨c, tail, rfl, visible, -⟩ := spells.start
  simp [skipSpace, visible]

/-- Values that neither array nor object holds: they have no height. -/
theorem Spells.scalar {cs : List Char} {v : Json}
    (start : ∃ c tail, cs = c :: tail ∧ isSpace c = false ∧ c ≠ ']')
    (read : ∀ {depth : Nat} {input rest : List Char}, skipSpace input = cs ++ rest →
      EndsNumber rest → value depth input = .ok (v, rest))
    (nests : ∀ (depth : Nat) (rest : List Char),
      nestingFrom .plain depth (cs ++ rest) = nestingFrom .plain depth rest) : Spells cs v 0 where
  start := start
  read := fun input ends _ => read input ends
  refuse := fun _ _ positive none => absurd positive (Nat.not_lt.mpr none)
  nests := fun depth rest => by rw [nests, max_add_zero_nestingFrom]

theorem spells_null : Spells "null".toList .null 0 :=
  .scalar ⟨'n', _, rfl, rfl, by decide⟩ (fun input _ => value_named _ rfl input) fun _ _ => rfl

theorem spells_bool (b : Bool) : Spells (if b then "true" else "false").toList (.bool b) 0 := by
  cases b with
  | false =>
    exact .scalar ⟨'f', _, rfl, rfl, by decide⟩ (fun input _ => value_named _ rfl input)
      fun _ _ => rfl
  | true =>
    exact .scalar ⟨'t', _, rfl, rfl, by decide⟩ (fun input _ => value_named _ rfl input)
      fun _ _ => rfl

theorem spells_string (s : String) : Spells (stringText s).toList (.string s) 0 := by
  refine .scalar
    ⟨'"', _, by rw [stringText, String.toList_ofList, List.cons_append], rfl, by decide⟩ ?_
    fun depth rest => nestingFrom_stringText depth s rest
  intro depth input rest skipped _
  have body := readString_escaped s.toList rest
  rw [stringText, String.toList_ofList] at skipped
  simp only [List.cons_append, List.append_assoc, List.nil_append] at skipped
  rw [value_string depth skipped, body]
  simp [Except.bind]

theorem isDigit_of_mem_toDigits {n : Nat} {c : Char} (h : c ∈ Nat.toDigits 10 n) :
    isDigit c = true := by
  rw [isDigit, digit?_of_isDigit (Nat.isDigit_of_mem_toDigits (by decide) (by decide) h)]
  rfl

theorem spells_word {n : Nat} (fits : n ≤ maxWord) : Spells (toString n).toList (ofNat n) 0 := by
  have digits : (toString n).toList = Nat.toDigits 10 n := Nat.toList_repr
  have all : ∀ c ∈ Nat.toDigits 10 n, isDigit c = true := fun c hc => isDigit_of_mem_toDigits hc
  rw [digits]
  cases chars : Nat.toDigits 10 n with
  | nil => exact absurd chars Nat.toDigits_ne_nil
  | cons c cs =>
    rw [chars] at all
    have first := all c (by simp)
    refine .scalar ⟨c, cs, rfl, isSpace_of_isDigit first, by rintro rfl; cases first⟩ ?_
      fun depth rest => nestingFrom_skip depth (fun d hd => isMark_of_isDigit (all d hd)) rest
    intro depth input rest skipped ends
    have whole := readNumber_toDigits false fits ends
    rw [chars] at whole
    rw [value_digit depth skipped first]
    simp only [List.cons_append] at whole
    rw [show cs.append rest = cs ++ rest from rfl, whole]
    rfl

/-- A number below zero that fits 64 bits with its sign. -/
theorem spells_minus {n : Nat} (positive : 0 < n) (fits : n ≤ Nat.pow 2 63) :
    Spells ("-" ++ toString n).toList (.number (.negative n)) 0 := by
  have chars : ("-" ++ toString n).toList = '-' :: Nat.toDigits 10 n := by
    rw [String.toList_append]
    exact congrArg _ Nat.toList_repr
  have word : n ≤ maxWord := Nat.le_trans fits (by decide)
  have number : integerNumber true n = .negative n := by
    simp [integerNumber, Nat.pos_iff_ne_zero.mp positive, Nat.not_lt.mpr fits]
  have plain : ∀ c ∈ '-' :: Nat.toDigits 10 n, isMark c = false := by
    rintro c (_ | ⟨_, listed⟩)
    · rfl
    · exact isMark_of_isDigit (isDigit_of_mem_toDigits listed)
  rw [chars]
  refine .scalar ⟨'-', _, rfl, rfl, by decide⟩ ?_ fun depth => nestingFrom_skip depth plain
  intro depth input rest skipped ends
  rw [value_minus depth skipped]
  simp only [List.append_eq, readNumber_toDigits true word ends, number, Except.bind]

/-- What stands before an entry: blanks, after a comma if it is not the first. -/
def lead (first : Bool) (blanks : List Char) : List Char := if first then blanks else ',' :: blanks

theorem lead_true (blanks rest : List Char) : lead true blanks ++ rest = blanks ++ rest := rfl

theorem lead_false (blanks rest : List Char) :
    lead false blanks ++ rest = ',' :: (blanks ++ rest) := rfl

theorem skipSpace_comma (rest : List Char) : skipSpace (',' :: rest) = ',' :: rest := rfl

section Entries

-- The reader goes up to the end of an array or object, from its first entry on or from a later one.
variable {α : Type} (reader : Nat → Bool → List Char → Except Stop (List α × List Char))

/-- The characters are read as one entry of an array or object. -/
structure SpellsEntry (cs : List Char) (x : α) (height : Nat) : Prop where
  read : ∀ {depth : Nat} {blanks rest : List Char} (first : Bool),
    (∀ c ∈ blanks, isSpace c = true) → EndsNumber rest → height < depth →
    reader depth first (lead first blanks ++ (cs ++ rest)) =
      (reader depth false rest).bind fun (xs, left) => .ok (x :: xs, left)
  refuse : ∀ {depth : Nat} {blanks rest : List Char} (first : Bool),
    (∀ c ∈ blanks, isSpace c = true) → EndsNumber rest → 0 < depth → depth ≤ height →
    ∃ stop, reader depth first (lead first blanks ++ (cs ++ rest)) = .error stop
  nests : ∀ (depth : Nat) (rest : List Char),
    nestingFrom .plain depth (cs ++ rest) =
      max (depth + height) (nestingFrom .plain depth rest)

/-- The characters are read as entries after the first. -/
structure SpellsMore (cs : List Char) (xs : List α) (height : Nat) : Prop where
  read : ∀ {depth : Nat} {rest : List Char}, EndsNumber rest → height < depth →
    reader depth false (cs ++ rest) =
      (reader depth false rest).bind fun (more, left) => .ok (xs ++ more, left)
  refuse : ∀ {depth : Nat} {rest : List Char}, EndsNumber rest → 0 < depth → depth ≤ height →
    ∃ stop, reader depth false (cs ++ rest) = .error stop
  nests : ∀ (depth : Nat) (rest : List Char),
    nestingFrom .plain depth (cs ++ rest) =
      max (depth + height) (nestingFrom .plain depth rest)
  ends : ∀ {rest : List Char}, EndsNumber rest → EndsNumber (cs ++ rest)

/-- Entries between two brackets are read as a value one level higher. -/
structure Brackets (opening closing : Char) (wrap : List α → Json) : Prop where
  visible : isSpace opening = false ∧ opening ≠ ']'
  opens : ∀ (depth : Nat) {input rest : List Char}, skipSpace input = opening :: rest →
    value depth input =
      if depth ≤ 1 then .error (.on .tooDeep (opening :: rest))
      else (reader (depth - 1) true rest).bind fun (xs, rest) => .ok (wrap xs, rest)
  closes : ∀ {depth : Nat} {first : Bool} {blanks rest : List Char},
    (∀ c ∈ blanks, isSpace c = true) →
    reader depth first (blanks ++ closing :: rest) = .ok ([], rest)
  ends : continuesNumber closing = false
  deepens : ∀ (depth : Nat) (rest : List Char),
    nestingFrom .plain depth (opening :: rest) = nestingFrom .plain (depth + 1) rest
  rises : ∀ (depth : Nat) (rest : List Char),
    nestingFrom .plain (depth + 1) (closing :: rest) =
      max (depth + 1) (nestingFrom .plain depth rest)

end Entries

theorem endsNumber_blanks {blanks rest : List Char} (space : ∀ c ∈ blanks, isSpace c = true)
    (ends : EndsNumber rest) : EndsNumber (blanks ++ rest) := by
  cases blanks with
  | nil => exact ends
  | cons c blanks =>
    have blank := space c (by simp)
    simp only [isSpace, Bool.or_eq_true, beq_iff_eq] at blank
    obtain ((rfl | rfl) | rfl) | rfl := blank <;> rfl

theorem nestingFrom_lead (depth : Nat) (first : Bool) {blanks : List Char}
    (space : ∀ c ∈ blanks, isSpace c = true) (rest : List Char) :
    nestingFrom .plain depth (lead first blanks ++ rest) = nestingFrom .plain depth rest := by
  have skipped := nestingFrom_skip depth (fun c hc => isMark_of_isSpace (space c hc)) rest
  cases first with
  | false => exact skipped
  | true => exact skipped

namespace SpellsMore

variable {α : Type} {reader : Nat → Bool → List Char → Except Stop (List α × List Char)}

theorem nil : SpellsMore reader [] [] 0 where
  read := by
    intro depth rest _ _
    rw [List.nil_append]
    cases reader depth false rest <;> rfl
  refuse := fun _ positive none => absurd positive (Nat.not_lt.mpr none)
  nests := fun depth rest => (max_add_zero_nestingFrom .plain depth rest).symm
  ends := fun ends => ends

theorem append {as bs : List Char} {xs ys : List α} {h k : Nat} (first : SpellsMore reader as xs h)
    (second : SpellsMore reader bs ys k) : SpellsMore reader (as ++ bs) (xs ++ ys) (max h k) where
  read := by
    intro depth rest ends allowed
    rw [List.append_assoc, first.read (second.ends ends) (by omega), second.read ends (by omega)]
    cases reader depth false rest <;> simp [Except.bind]
  refuse := by
    intro depth rest ends positive refused
    rw [List.append_assoc]
    by_cases early : depth ≤ h
    · exact first.refuse (second.ends ends) positive early
    · obtain ⟨stop, failed⟩ := second.refuse ends positive (by omega)
      rw [first.read (second.ends ends) (by omega), failed]
      exact ⟨stop, rfl⟩
  nests := by
    intro depth rest
    rw [List.append_assoc, first.nests, second.nests]
    omega
  ends := by
    intro rest ends
    rw [List.append_assoc]
    exact first.ends (second.ends ends)

/-- An entry after a comma and blanks. -/
theorem entry {blanks cs : List Char} {x : α} {height : Nat}
    (space : ∀ c ∈ blanks, isSpace c = true) (spells : SpellsEntry reader cs x height) :
    SpellsMore reader (',' :: (blanks ++ cs)) [x] height where
  read := by
    intro depth rest ends allowed
    have read := spells.read false space ends allowed
    rw [List.cons_append, List.append_assoc]
    exact read
  refuse := by
    intro depth rest ends positive refused
    have failed := spells.refuse false space ends positive refused
    rw [List.cons_append, List.append_assoc]
    exact failed
  nests := by
    intro depth rest
    have led := nestingFrom_lead depth false space (cs ++ rest)
    rw [← spells.nests, ← led, List.cons_append, List.append_assoc]
    rfl
  ends := fun _ => rfl

end SpellsMore

namespace Brackets

variable {α : Type} {reader : Nat → Bool → List Char → Except Stop (List α × List Char)}
  {opening closing : Char} {wrap : List α → Json}

theorem spells_nil (b : Brackets reader opening closing wrap) :
    Spells [opening, closing] (wrap []) 1 where
  start := ⟨opening, _, rfl, b.visible⟩
  read := by
    intro depth input rest skipped _ allowed
    have here : skipSpace input = opening :: ([] ++ closing :: rest) := skipped
    rw [b.opens depth here, if_neg (by omega), b.closes (List.forall_mem_nil _)]
    rfl
  refuse := by
    intro depth input rest skipped _ _ refused
    rw [b.opens depth skipped, if_pos refused]
    exact ⟨_, rfl⟩
  nests := fun depth rest => by
    rw [List.cons_append, List.cons_append, List.nil_append, b.deepens, b.rises]

/-- A first entry and those after it, with blanks on either side. -/
theorem spells_cons (b : Brackets reader opening closing wrap) {before after cs more : List Char}
    {x : α} {xs : List α} {h k : Nat} (spaceBefore : ∀ c ∈ before, isSpace c = true)
    (spaceAfter : ∀ c ∈ after, isSpace c = true) (first : SpellsEntry reader cs x h)
    (others : SpellsMore reader more xs k) :
    Spells (opening :: (before ++ (cs ++ (more ++ (after ++ [closing]))))) (wrap (x :: xs))
      (max h k + 1) := by
  have ended (rest : List Char) : EndsNumber (after ++ closing :: rest) :=
    endsNumber_blanks spaceAfter (by simp [EndsNumber, b.ends])
  have inside (rest : List Char) :
      opening :: (before ++ (cs ++ (more ++ (after ++ [closing])))) ++ rest =
        opening :: (lead true before ++ (cs ++ (more ++ (after ++ closing :: rest)))) := by
    simp [lead]
  constructor
  case start => exact ⟨opening, _, rfl, b.visible⟩
  case read =>
    intro depth input rest skipped _ allowed
    rw [inside] at skipped
    rw [b.opens depth skipped, if_neg (by omega),
      first.read true spaceBefore (others.ends (ended rest)) (by omega),
      others.read (ended rest) (by omega), b.closes spaceAfter]
    simp [Except.bind]
  case refuse =>
    intro depth input rest skipped _ positive refused
    rw [inside] at skipped
    rw [b.opens depth skipped]
    by_cases low : depth ≤ 1
    · rw [if_pos low]
      exact ⟨_, rfl⟩
    · rw [if_neg low]
      by_cases early : depth - 1 ≤ h
      · obtain ⟨stop, failed⟩ :=
          first.refuse true spaceBefore (others.ends (ended rest)) (by omega) early
        rw [failed]
        exact ⟨stop, rfl⟩
      · obtain ⟨stop, failed⟩ : ∃ stop, reader (depth - 1) false
            (more ++ (after ++ closing :: rest)) = .error stop :=
          others.refuse (ended rest) (by omega) (by omega)
        rw [first.read true spaceBefore (others.ends (ended rest)) (by omega), failed]
        exact ⟨stop, rfl⟩
  case nests =>
    intro depth rest
    have skipped := nestingFrom_skip (depth + 1) (fun c hc => isMark_of_isSpace (spaceAfter c hc))
      (closing :: rest)
    rw [inside, b.deepens, nestingFrom_lead _ _ spaceBefore, first.nests, others.nests, skipped,
      b.rises]
    omega

end Brackets

/-- The step to an entry, which starts with a character that ends no array. -/
theorem itemStep_lead (first : Bool) {blanks cs : List Char} {c : Char}
    (space : ∀ c ∈ blanks, isSpace c = true) (visible : isSpace c = false) (notClosing : c ≠ ']') :
    itemStep first (lead first blanks ++ c :: cs) = .ok (.entry (c :: cs)) := by
  have here := skipSpace_blanks space visible cs
  cases first with
  | true =>
    rw [lead_true, itemStep, here]
    simp only [if_neg notClosing, ↓reduceIte]
  | false =>
    rw [lead_false, itemStep]
    simp only [skipSpace_comma, Char.reduceEq, Bool.false_eq_true, ↓reduceIte, here,
      if_neg notClosing]

/-- An item of an array is a value. -/
theorem Spells.item {cs : List Char} {v : Json} {height : Nat} (spells : Spells cs v height) :
    SpellsEntry items cs v height := by
  have step (first : Bool) {blanks : List Char} (space : ∀ c ∈ blanks, isSpace c = true)
      (rest : List Char) :
      itemStep first (lead first blanks ++ (cs ++ rest)) = .ok (.entry (cs ++ rest)) := by
    obtain ⟨c, tail, rfl, visible, notClosing⟩ := spells.start
    exact itemStep_lead first space visible notClosing
  refine ⟨?_, ?_, spells.nests⟩
  · intro depth blanks rest first space ends allowed
    rw [items_eq, step first space rest]
    simp only [Except.bind]
    rw [spells.read (spells.skipSpace_append rest) ends allowed]
  · intro depth blanks rest first space ends positive refused
    obtain ⟨stop, failed⟩ := spells.refuse (spells.skipSpace_append rest) ends positive refused
    rw [items_eq, step first space rest]
    simp only [Except.bind]
    rw [failed]
    exact ⟨stop, rfl⟩

theorem brackets_array : Brackets items '[' ']' .array where
  visible := by decide
  opens := fun depth _ _ skipped => value_array depth skipped
  closes := by
    intro depth first blanks rest space
    rw [items_eq, itemStep, skipSpace_blanks space rfl]
    rfl
  ends := by decide
  deepens := fun _ _ => rfl
  rises := fun _ _ => rfl

theorem readKey_written (key : String) (rest : List Char) :
    readKey (key.toList.flatMap escapeChar ++ '"' :: ':' :: rest) = .ok (key, rest) := by
  have coloned : colon (':' :: rest) = .ok rest := rfl
  simp [readKey, readString_escaped, coloned]

theorem memberStep_lead (first : Bool) {blanks : List Char}
    (space : ∀ c ∈ blanks, isSpace c = true) (rest : List Char) :
    memberStep first (lead first blanks ++ '"' :: rest) = .ok (.entry rest) := by
  have here := skipSpace_blanks space (c := '"') rfl rest
  cases first with
  | true =>
    rw [lead_true, memberStep, here]
    rfl
  | false =>
    rw [lead_false, memberStep]
    simp only [skipSpace_comma, Char.reduceEq, Bool.false_eq_true, ↓reduceIte, here]

/-- What comes after the opening mark of a key: the key, a colon and the value. -/
def afterMark (key : String) (cs : List Char) : List Char :=
  key.toList.flatMap escapeChar ++ '"' :: ':' :: ' ' :: cs

theorem nestingFrom_afterMark (depth : Nat) (key : String) (cs rest : List Char) :
    nestingFrom .plain depth ('"' :: afterMark key cs ++ rest) =
      nestingFrom .plain depth (cs ++ rest) := by
  have text : '"' :: afterMark key cs ++ rest =
      (stringText key).toList ++ ([':', ' '] ++ (cs ++ rest)) := by
    simp [afterMark, stringText]
  rw [text, nestingFrom_stringText, nestingFrom_skip depth (by simp [isMark])]

theorem members_entry (depth : Nat) {first : Bool} {blanks : List Char}
    (space : ∀ c ∈ blanks, isSpace c = true) (key : String) (cs rest : List Char) :
    members depth first (lead first blanks ++ ('"' :: afterMark key cs ++ rest)) =
      (value depth (' ' :: (cs ++ rest))).bind fun (v, left) =>
        (members depth false left).bind fun (ms, left) => .ok ((key, v) :: ms, left) := by
  have step := memberStep_lead first space (afterMark key cs ++ rest)
  have keyed := readKey_written key (' ' :: (cs ++ rest))
  rw [List.cons_append, members_eq, step]
  simp only [afterMark, List.append_assoc, List.cons_append, Except.bind, keyed]

/-- A member of an object is a key with a value. -/
theorem Spells.member (key : String) {cs : List Char} {v : Json} {height : Nat}
    (spells : Spells cs v height) :
    SpellsEntry members ('"' :: afterMark key cs) (key, v) height := by
  have blank (rest : List Char) : skipSpace (' ' :: (cs ++ rest)) = cs ++ rest :=
    spells.skipSpace_append rest
  refine ⟨?_, ?_, ?_⟩
  · intro depth blanks rest first space ends allowed
    rw [members_entry depth space, spells.read (blank rest) ends allowed]
    rfl
  · intro depth blanks rest first space ends positive refused
    obtain ⟨stop, failed⟩ := spells.refuse (blank rest) ends positive refused
    rw [members_entry depth space, failed]
    exact ⟨stop, rfl⟩
  · intro depth rest
    rw [nestingFrom_afterMark, spells.nests]

theorem brackets_object : Brackets members '\x7b' '\x7d' fun ms => .object (assignAll ms) where
  visible := by decide
  opens := fun depth _ _ skipped => value_object depth skipped
  closes := by
    intro depth first blanks rest space
    rw [members_eq, memberStep, skipSpace_blanks space rfl]
    rfl
  ends := by decide
  deepens := fun _ _ => rfl
  rises := fun _ _ => rfl

theorem Spells.nesting_eq {text : String} {v : Json} {height : Nat}
    (spells : Spells text.toList v height) : nesting text = height := by
  have nests := spells.nests 0 []
  rw [List.append_nil] at nests
  rw [nesting, nests]
  simp [nestingFrom]

/-- A written text and blanks after it are read by a reader that allows more levels. -/
theorem Spells.parse_append {text blanks : String} {v : Json} {height : Nat}
    (spells : Spells text.toList v height) (space : ∀ c ∈ blanks.toList, isSpace c = true)
    {limit : Nat} (allowed : height < limit) : parse limit (text ++ blanks) = .ok v := by
  have here := spells.skipSpace_append blanks.toList
  have ends : EndsNumber blanks.toList := by
    have end_blanks : EndsNumber (blanks.toList ++ []) := endsNumber_blanks space rfl
    rwa [List.append_nil] at end_blanks
  have left : skipSpace blanks.toList = [] := by
    have dropped : skipSpace (blanks.toList ++ []) = [] := List.dropWhile_append_of_pos space
    rwa [List.append_nil] at dropped
  rw [Json.parse, readAll_eq, String.toList_append, spells.read here ends allowed]
  simp only [Except.bind, left]

/-- A written text is read if it nests less than the limit. -/
theorem Spells.parse {text : String} {v : Json} {height : Nat}
    (spells : Spells text.toList v height) (limit : Nat) (allowed : nesting text < limit) :
    parse limit text = .ok v := by
  have parsed := spells.parse_append (List.all_eq_true.mp rfl : ∀ c ∈ "".toList, isSpace c = true)
    (spells.nesting_eq ▸ allowed)
  rwa [String.append_empty] at parsed

/-- A written text is refused if it nests up to the limit. -/
theorem Spells.parse_error {text : String} {v : Json} {height : Nat}
    (spells : Spells text.toList v height) (limit : Nat) (positive : 0 < limit)
    (refused : limit ≤ nesting text) : ∃ fault, Json.parse limit text = .error fault := by
  have here := spells.skipSpace_append []
  obtain ⟨stop, failed⟩ := spells.refuse here rfl positive (spells.nesting_eq ▸ refused)
  rw [List.append_nil] at failed
  rw [Json.parse, readAll_eq, failed]
  exact ⟨_, rfl⟩

end ContextualQuery.Json
