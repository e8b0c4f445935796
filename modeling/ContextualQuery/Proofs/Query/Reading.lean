import ContextualQuery.Proofs.Except
import ContextualQuery.Query.Parser

/-!
# Reading without bounds

The functions that read a query return what is left together with a bound on its length, which is
what makes them end. Here the bound is dropped, and each function gets one equation for each way
it can go on. Later modules use these equations and do not unfold the functions.
-/
namespace ContextualQuery

/-- What reading a part of a query gives: the tree, the prefixes declared so far, and the tokens
left. -/
structure Reading where
  node : Node
  table : PrefixTable
  rest : List Token
deriving DecidableEq

/-- The result without its bound. -/
def Parsed.reading {bound : Nat} (p : Parsed bound) : Reading := ⟨p.node, p.table, p.rest⟩

namespace Source

variable (src : Source) (scope : IndexScope) (table : PrefixTable)

def readQuery (ts : List Token) : Except QueryError Reading :=
  (src.parseQuery scope table ts).map Parsed.reading

def readChain (left : Node) (ts : List Token) : Except QueryError Reading :=
  (src.parseChain scope table left ts).map Parsed.reading

def readClause (ts : List Token) : Except QueryError Reading :=
  (src.parseClause scope table ts).map Parsed.reading

/-- Ends a group after the query inside it. -/
def closeGroup (opening : Token) (inner : Reading) : Except QueryError Reading :=
  match inner.rest with
  | [] => .error (src.fail .missingClosingParen opening.start [])
  | closing :: rest =>
    if closing.kind = .closeParen then .ok { inner with rest }
    else .error (src.fail .missingClosingParen opening.start (closing :: rest))

def indexScope (name relation : Token) (ms : List Modifier) : IndexScope :=
  { field := name.text, relation := relation.text, modifiers := ms
    start := some name.start, relationPos := some relation.start }

theorem readClause_length {ts : List Token} {r : Reading}
    (h : src.readClause scope table ts = .ok r) : r.rest.length < ts.length := by
  unfold readClause at h
  cases parsed : src.parseClause scope table ts with
  | error e => simp [parsed, Except.map] at h
  | ok p =>
    simp only [parsed, Except.map, Except.ok.injEq] at h
    subst h
    exact p.shorter

theorem readQuery_length {ts : List Token} {r : Reading}
    (h : src.readQuery scope table ts = .ok r) : r.rest.length < ts.length := by
  unfold readQuery at h
  cases parsed : src.parseQuery scope table ts with
  | error e => simp [parsed, Except.map] at h
  | ok p =>
    simp only [parsed, Except.map, Except.ok.injEq] at h
    subst h
    exact p.shorter

theorem word_eq_ok_iff {src : Source} {kind : ErrorKind} {ts rest : List Token} {t : Token} :
    src.word kind ts = .ok (t, rest) ↔ ts = t :: rest ∧ t.isWord = true := by
  cases ts with
  | nil => simp [word]
  | cons u us =>
    simp only [word]
    split
    · rename_i isWord
      simp only [Except.ok.injEq, Prod.mk.injEq, List.cons.injEq]
      constructor
      · rintro ⟨rfl, rfl⟩
        exact ⟨⟨rfl, rfl⟩, isWord⟩
      · exact fun h => h.1
    · rename_i notWord
      constructor
      · intro h
        cases h
      · rintro ⟨same, isWord⟩
        cases same
        exact absurd isWord notWord

theorem word_cons {src : Source} {t : Token} (h : t.isWord = true) (kind : ErrorKind)
    (rest : List Token) : src.word kind (t :: rest) = .ok (t, rest) :=
  word_eq_ok_iff.mpr ⟨rfl, h⟩

def flagAt (slash name : Token) : Modifier :=
  { Modifier.ofFlag name.text with
    pos := some name.start, range := some ⟨slash.start, name.stop⟩ }

/-- Reads the comparison and value that may follow the name of a modifier. -/
def setting (slash name : Token) (ts : List Token) : Except QueryError (Modifier × List Token) :=
  match ts with
  | [] => .ok (flagAt slash name, [])
  | relation :: rest =>
    if relation.kind = .comparison then
      (src.word .invalidModifierRelation rest).bind fun (value, rest) =>
        .ok ({ flagAt slash name with
          relation := relation.text, value := value.text
          range := some ⟨slash.start, value.stop⟩ }, rest)
    else .ok (flagAt slash name, relation :: rest)

theorem modifier_eq (slash : Token) (ts : List Token) :
    src.modifier slash ts =
      (src.word .invalidModifier ts).bind fun (name, rest) => src.setting slash name rest := by
  unfold modifier
  cases src.word .invalidModifier ts with
  | error e => rfl
  | ok read =>
    obtain ⟨name, rest⟩ := read
    cases rest with
    | nil => rfl
    | cons relation rest =>
      simp only [Except.bind, setting]
      split
      · cases src.word .invalidModifierRelation rest <;> rfl
      · rfl

/-- Reads the equals sign and URI that may follow the first word of a declaration. -/
def binding (first : Token) (ts : List Token) : Except QueryError (PrefixTable × List Token) :=
  match ts with
  | [] => .ok (table.insert PrefixTable.defaultName first.text, [])
  | equals :: rest =>
    if equals.isComparison "=" then
      (src.word .expectedWord rest).bind fun (uri, rest) =>
        .ok (table.insert first.text uri.text, rest)
    else .ok (table.insert PrefixTable.defaultName first.text, equals :: rest)

theorem declaration_eq (ts : List Token) :
    src.declaration table ts =
      (src.word .expectedWord ts).bind fun (first, rest) => src.binding table first rest := by
  unfold declaration
  cases src.word .expectedWord ts with
  | error e => rfl
  | ok read =>
    obtain ⟨first, rest⟩ := read
    cases rest with
    | nil => rfl
    | cons equals rest =>
      simp only [Except.bind, binding]
      split
      · cases src.word .expectedWord rest <;> rfl
      · rfl

theorem modifiers_stop {ts : List Token} (stops : ts.head?.any (·.kind == .slash) = false) :
    src.modifiers ts = .ok ([], ts) := by
  cases ts with
  | nil => rw [modifiers]
  | cons t ts =>
    simp only [List.head?_cons, Option.any_some, beq_eq_false_iff_ne] at stops
    rw [modifiers, if_neg stops]

theorem modifiers_slash {slash : Token} (h : slash.kind = .slash) (ts : List Token) :
    src.modifiers (slash :: ts) =
      (src.modifier slash ts).bind fun (m, rest) =>
        (src.modifiers rest).bind fun (ms, rest) => .ok (m :: ms, rest) := by
  rw [modifiers, if_pos h]
  split
  · rename_i e failed
    simp [failed, Except.bind]
  · rename_i m rest read
    simp only [read, Except.bind]
    split <;> simp_all

theorem readQuery_eq (ts : List Token) :
    src.readQuery scope table ts =
      (src.readClause scope table ts).bind fun first =>
        src.readChain scope first.table first.node first.rest := by
  unfold readQuery readClause readChain
  rw [parseQuery]
  cases src.parseClause scope table ts with
  | error e => rfl
  | ok first =>
    simp only [Except.map, Except.bind, Parsed.reading]
    cases src.parseChain scope first.table first.node first.rest <;> rfl

theorem readChain_nil (left : Node) :
    src.readChain scope table left [] = .ok ⟨left, table, []⟩ := by
  unfold readChain
  rw [parseChain]
  rfl

theorem readChain_stop (left : Node) {word : Token} (h : word.operator? = none)
    (after : List Token) :
    src.readChain scope table left (word :: after) = .ok ⟨left, table, word :: after⟩ := by
  unfold readChain
  rw [parseChain]
  split
  · rfl
  · simp_all

theorem readChain_join (left : Node) {word : Token} {op : BooleanOp} (h : word.operator? = some op)
    (after : List Token) :
    src.readChain scope table left (word :: after) =
      (src.modifiers after).bind fun (ms, operand) =>
        (src.readClause scope table operand).bind fun right =>
          src.readChain scope right.table (.boolean (connective op word ms) left right.node)
            right.rest := by
  unfold readChain readClause
  rw [parseChain]
  split
  · simp_all
  · rename_i op' same
    obtain rfl : op' = op := by simpa [same] using h
    split
    · rename_i e failed
      simp [failed, Except.map, Except.bind]
    · rename_i ms operand read
      simp only [read, Except.bind]
      cases src.parseClause scope table operand with
      | error e => rfl
      | ok right =>
        simp only [Except.map, Parsed.reading]
        cases src.parseChain scope right.table
          (.boolean (connective op' word ms) left right.node) right.rest <;> rfl

theorem readClause_nil :
    src.readClause scope table [] = .error (src.failHere .invalidClause []) := by
  unfold readClause
  rw [parseClause]
  rfl

theorem readClause_group {opening : Token} (h : opening.kind = .openParen) (after : List Token) :
    src.readClause scope table (opening :: after) =
      (src.readQuery { scope with start := none } table after).bind (src.closeGroup opening) := by
  unfold readClause readQuery
  rw [parseClause.eq_def]
  simp only
  rw [if_pos h]
  cases src.parseQuery { scope with start := none } table after with
  | error e => rfl
  | ok inner =>
    obtain ⟨node, declared, rest, shorter⟩ := inner
    cases rest with
    | nil => rfl
    | cons closing rest =>
      by_cases closed : closing.kind = .closeParen <;>
        simp [closed, Except.map, Except.bind, closeGroup, Parsed.reading]

theorem kind_ne_openParen_of_isWord {t : Token} (h : t.isWord = true) : t.kind ≠ .openParen := by
  intro same
  simp [Token.isWord, same] at h

/-- A word is a term where no relation follows it. -/
theorem readClause_term {word : Token} (h : word.isWord = true) {after : List Token}
    (stops : after.head?.any Token.isRelation = false) :
    src.readClause scope table (word :: after) =
      (src.modifiers after).bind fun (ms, rest) =>
        .ok ⟨.clause (src.termClause scope table word ms), table, rest⟩ := by
  unfold readClause
  rw [parseClause.eq_def]
  simp only
  rw [if_neg (kind_ne_openParen_of_isWord h), if_pos h]
  cases after with
  | nil =>
    rw [modifiers]
    rfl
  | cons next tail =>
    simp only [List.head?_cons, Option.any_some] at stops
    simp only [stops, Bool.false_eq_true, ↓reduceIte]
    split
    · rename_i e failed
      simp [failed, Except.map, Except.bind]
    · rename_i ms rest read
      simp [read, Except.map, Except.bind, Parsed.reading]

/-- A word before a relation names an index. -/
theorem readClause_index {name relation : Token} (h : name.isWord = true)
    (isRelation : relation.isRelation = true) (after : List Token) :
    src.readClause scope table (name :: relation :: after) =
      (src.modifiers after).bind fun (ms, inner) =>
        src.readClause (indexScope name relation ms) table inner := by
  unfold readClause
  rw [parseClause.eq_def]
  simp only
  rw [if_neg (kind_ne_openParen_of_isWord h), if_pos h]
  simp only [isRelation, ↓reduceIte]
  split
  · rename_i e failed
    simp [failed, Except.map, Except.bind]
  · rename_i ms inner read
    simp only [read, Except.bind, indexScope]
    cases src.parseClause _ table inner <;> rfl

theorem readClause_declaration {mark : Token} (h : mark.isComparison ">" = true)
    (after : List Token) :
    src.readClause scope table (mark :: after) =
      (src.declaration table after).bind fun (table, inner) => src.readQuery scope table inner := by
  have kind : mark.kind = .comparison := by
    simp only [Token.isComparison, Bool.and_eq_true, beq_iff_eq] at h
    exact h.1
  unfold readClause readQuery
  rw [parseClause.eq_def]
  simp only
  rw [if_neg (by simp [kind]), if_neg (by simp [Token.isWord, kind]), if_pos h]
  split
  · rename_i e failed
    simp [failed, Except.map, Except.bind]
  · rename_i table inner read
    simp only [read, Except.bind]
    cases src.parseQuery scope table inner <;> rfl

theorem readClause_other {first : Token} (notOpening : first.kind ≠ .openParen)
    (notWord : first.isWord = false) (notMark : first.isComparison ">" = false)
    (after : List Token) :
    src.readClause scope table (first :: after) =
      .error (src.failHere .invalidClause (first :: after)) := by
  unfold readClause
  rw [parseClause.eq_def]
  simp only
  rw [if_neg notOpening, if_neg (by simp [notWord]), if_neg (by simp [notMark])]
  rfl

/-- Ends a query: no token may be left. -/
def endQuery (r : Reading) : Except QueryError Node :=
  match r.rest with
  | [] => .ok r.node
  | t :: rest =>
    if t.kind = .unterminated then
      .error { src.failHere .invalidClause (t :: rest) with
        message := "invalid search clause: unterminated quoted string" }
    else .error (src.failHere .trailingInput (t :: rest))

theorem parseAll_eq {ts : List Token} (h : ts ≠ []) :
    src.parseAll ts = (src.readQuery (.ofChoice src.choice) .empty ts).bind src.endQuery := by
  unfold parseAll readQuery
  rw [if_neg (by simpa using h)]
  cases src.parseQuery (.ofChoice src.choice) .empty ts with
  | error e => rfl
  | ok p =>
    obtain ⟨node, table, rest, _⟩ := p
    cases rest <;> rfl

end Source

/-- A query is read when all its tokens are. -/
theorem Node.parse_eq_ok_iff {query : String} {choice : ServerChoice} {n : Node} :
    Node.parse query choice = .ok n ↔
      ∃ table, Source.readQuery ⟨query, choice⟩ (.ofChoice choice) .empty (tokenize query) =
        .ok ⟨n, table, []⟩ := by
  unfold Node.parse
  cases ts : tokenize query with
  | nil => simp [Source.parseAll, Source.readQuery_eq, Source.readClause_nil, Except.bind]
  | cons t rest =>
    rw [Source.parseAll_eq _ (by simp), Except.bind_eq_ok_iff]
    constructor
    · rintro ⟨⟨node, table, left⟩, read, ended⟩
      cases left with
      | nil =>
        simp only [Source.endQuery, Except.ok.injEq] at ended
        exact ⟨table, ended ▸ read⟩
      | cons u us =>
        simp only [Source.endQuery] at ended
        split at ended <;> cases ended
    · rintro ⟨table, read⟩
      exact ⟨_, read, rfl⟩

end ContextualQuery
