import ContextualQuery.Proofs.Query.Derivation
import ContextualQuery.Proofs.Query.Tree
import ContextualQuery.Proofs.Text.Lowercase
import ContextualQuery.Proofs.Token.Spelling

/-!
# The phrase that canonical text writes

Canonical text is the spelling of one derivation, which can be read off the tree: an index is
written where the tree needs one, and boolean operands are groups.

* `Node.toCql_boolean`: the loop over left operands writes a node from its operands;
* `Node.spelling_toCql`: canonical text spells the tokens of `Node.phrase`;
* `Node.phrase_greedy`, `Node.phrase_settled`: that phrase keeps the lookahead rules.
-/
namespace ContextualQuery

namespace Node

def operandText (n : Node) : String := inParens n.isBoolean n.toCql

theorem toCql_clause (c : SearchClause) : (Node.clause c).toCql = c.toCql := by
  simp [toCql, cqlOnto, joinCql]

theorem joinCql_append (a b : String) (pending : List (Connective × String)) :
    joinCql (a ++ b) pending = a ++ joinCql b pending := by
  induction pending generalizing b with
  | nil => rfl
  | cons p rest ih =>
    obtain ⟨k, right⟩ := p
    cases rest with
    | nil => simp [joinCql, String.append_assoc]
    | cons q rest =>
      simp only [joinCql, String.append_assoc] at ih ⊢
      exact ih _

/-- A node before further operands is written as an operand, after one parenthesis for each of the
groups that it opens. -/
theorem cqlOnto_cons (n : Node) (p : Connective × String) (pending : List (Connective × String)) :
    n.cqlOnto (p :: pending) =
      String.ofList (List.replicate pending.length '(') ++
        joinCql n.operandText (p :: pending) := by
  induction n generalizing p pending with
  | clause c =>
    have text : (Node.clause c).operandText = c.toCql := toCql_clause c
    rw [text]
    rfl
  | boolean k left right ihl ihr =>
    have text : (Node.boolean k left right).toCql =
        left.operandText ++ k.toCql ++ right.operandText := by
      rw [toCql, cqlOnto, ihl]
      simp [joinCql, operandText, toCql]
    have grouped : (Node.boolean k left right).operandText =
        "(" ++ (left.operandText ++ k.toCql ++ right.operandText ++ ")") := by
      rw [operandText, isBoolean, inParens, if_pos rfl, text, String.append_assoc]
    rw [cqlOnto, ihl, grouped, joinCql_append, List.length_cons, List.replicate_succ',
      String.ofList_append, String.append_assoc]
    rfl

/-- A boolean node is its operands around its connective. -/
theorem toCql_boolean (k : Connective) (left right : Node) :
    (Node.boolean k left right).toCql = left.operandText ++ k.toCql ++ right.operandText := by
  rw [toCql, cqlOnto, cqlOnto_cons]
  simp [joinCql, operandText, toCql]

end Node

theorem isWord_wordKind (word : String) : (Token.spelled (wordKind word) word).isWord = true := by
  unfold wordKind
  split <;> rfl

def writtenWord (word : String) : Word := ⟨.spelled (wordKind word) word, isWord_wordKind word⟩

def writtenTerm (text : String) : Word := ⟨.spelled .quoted text, rfl⟩

theorem wordOrComparison_relationKind (relation : String) :
    ((Token.spelled (relationKind relation) relation).isWord ||
      (Token.spelled (relationKind relation) relation).isKind .comparison) = true := by
  unfold relationKind
  split
  · rfl
  · simp [isWord_wordKind]

def writtenRelation (relation : String) : RelationToken :=
  ⟨.spelled (relationKind relation) relation, wordOrComparison_relationKind relation⟩

theorem operator?_capitals (op : BooleanOp) :
    (Token.spelled .bareword op.capitals).operator? = some op := by
  have keyword : BooleanOp.ofKeyword? op.capitals = some op := by cases op <;> decide
  have bare : (Token.spelled .bareword op.capitals).kind = .bareword := rfl
  rw [Token.operator?, if_pos bare, Token.lower, BooleanOp.ofKeyword?_lowercase]
  exact keyword

def BooleanOp.written (op : BooleanOp) : Operator :=
  ⟨.spelled .bareword op.capitals, by simp [Token.isOperator, operator?_capitals]⟩

/-- The phrase of a modifier: a flag where it has no relation. -/
def Modifier.phrase (m : Modifier) : ModifierPhrase where
  slash := ⟨.spelled .slash "/", rfl⟩
  name := writtenWord m.name
  setting :=
    if m.isFlag then none else some (⟨.spelled .comparison m.relation, rfl⟩, writtenWord m.value)

/-- The phrase of a clause, with an index where one has to be written. -/
def SearchClause.phrase (c : SearchClause) : ClausePhrase :=
  if c.writesIndex then
    .indexed (writtenWord c.field) (writtenRelation c.relation) (c.modifiers.map Modifier.phrase)
      (.term (writtenTerm c.term) [])
  else .term (writtenTerm c.term) []

namespace Node

def operandPhrase : Node → ClausePhrase
  | .clause c => c.phrase
  | .boolean k left right =>
    .group ⟨.spelled .openParen "(", rfl⟩
      (.chain left.operandPhrase
        (.join k.op.written (k.modifiers.map Modifier.phrase) right.operandPhrase .done))
      ⟨.spelled .closeParen ")", rfl⟩

def phrase : Node → QueryPhrase
  | .clause c => .chain c.phrase .done
  | .boolean k left right =>
    .chain left.operandPhrase
      (.join k.op.written (k.modifiers.map Modifier.phrase) right.operandPhrase .done)

end Node

/-- A modifier that canonical text can express: a flag without a value, or a comparison. -/
def Modifier.Writable (m : Modifier) : Prop :=
  m.relation = "" ∧ m.value = "" ∨ isSymbol m.relation = true

theorem isFlag_eq_false_of_isSymbol {m : Modifier} (h : isSymbol m.relation = true) :
    m.isFlag = false := by
  cases flag : m.isFlag with
  | false => rfl
  | true =>
    simp only [Modifier.isFlag, String.isEmpty_iff] at flag
    rw [flag] at h
    cases h

theorem head_wordText (word : String) (rest : List Char) :
    ((wordText word).toList ++ rest).head?.all (!isComparisonChar ·) = true := by
  unfold wordText
  split
  · simp [quote, isComparisonChar]
  · rename_i bare
    simp only [needsQuotes, Bool.or_eq_true, not_or, Bool.not_eq_true] at bare
    obtain ⟨⟨⟨nonempty, -⟩, plain⟩, -⟩ := bare
    cases chars : word.toList with
    | nil => simp [chars] at nonempty
    | cons c cs =>
      have first := List.any_eq_false.mp plain c (by simp [chars])
      simp only [endsWord, Bool.or_eq_true, not_or, Bool.not_eq_true] at first
      simp [first.1.2]

theorem head_symbol {symbol : String} (h : isSymbol symbol = true) (rest : List Char) :
    (symbol.toList ++ rest).head?.all endsWord = true := by
  simp only [isSymbol, Bool.and_eq_true, Bool.not_eq_true', List.all_eq_true] at h
  cases chars : symbol.toList with
  | nil => simp [chars] at h
  | cons c cs =>
    have first := h.2 c (by simp [chars])
    simp [endsWord, first]

theorem spelling_modifier {m : Modifier} (writable : m.Writable) {rest : List Char}
    (stops : rest.head?.all endsWord = true) :
    spelling (m.toCql.toList ++ rest) = m.phrase.tokens ++ spelling rest := by
  have slash (cs : List Char) :
      spelling ("/".toList ++ cs) = .spelled .slash "/" :: spelling cs :=
    spelling_separator (c := '/') rfl cs
  obtain ⟨relation, -⟩ | symbol := writable
  · have flag : m.isFlag = true := by simp [Modifier.isFlag, relation]
    simp only [Modifier.toCql, flag, ↓reduceIte, String.append_empty, String.toList_append,
      List.append_assoc]
    rw [slash, spelling_word m.name stops]
    simp [Modifier.phrase, ModifierPhrase.tokens, flag, writtenWord]
  · have flag := isFlag_eq_false_of_isSymbol symbol
    simp only [Modifier.toCql, flag, Bool.false_eq_true, ↓reduceIte, String.toList_append,
      List.append_assoc]
    rw [slash, spelling_word m.name (head_symbol symbol _),
      spelling_symbol symbol (head_wordText m.value rest), spelling_word m.value stops]
    simp [Modifier.phrase, ModifierPhrase.tokens, flag, writtenWord]

theorem head_modifiersText {p : Char → Bool} (slash : p '/' = true) (ms : List Modifier)
    {rest : List Char} (h : rest.head?.all p = true) :
    ((modifiersText ms).toList ++ rest).head?.all p = true := by
  cases ms with
  | nil => simpa [modifiersText] using h
  | cons m ms => simp [modifiersText, Modifier.toCql, slash]

theorem spelling_modifiersText {ms : List Modifier} (writable : ∀ m ∈ ms, m.Writable)
    {rest : List Char} (stops : rest.head?.all endsWord = true) :
    spelling ((modifiersText ms).toList ++ rest) =
      modifierTokens (ms.map Modifier.phrase) ++ spelling rest := by
  induction ms with
  | nil => simp [modifiersText]
  | cons m ms ih =>
    have text : (modifiersText (m :: ms)).toList = m.toCql.toList ++ (modifiersText ms).toList := by
      simp [modifiersText]
    rw [text, List.append_assoc,
      spelling_modifier (writable m (by simp)) (head_modifiersText rfl ms stops),
      ih fun m' h => writable m' (List.mem_cons_of_mem _ h)]
    simp

theorem spelling_space (rest : List Char) : spelling (" ".toList ++ rest) = spelling rest :=
  spelling_blank (c := ' ') rfl rest

theorem SearchClause.spelling_toCql {c : SearchClause} (writable : ∀ m ∈ c.modifiers, m.Writable)
    (rest : List Char) : spelling (c.toCql.toList ++ rest) = c.phrase.tokens ++ spelling rest := by
  unfold SearchClause.toCql SearchClause.phrase
  split
  · have space (cs : List Char) : (" ".toList ++ cs).head?.all endsWord = true := rfl
    simp only [String.toList_append, List.append_assoc]
    rw [spelling_word c.field (space _), spelling_space,
      spelling_relation c.relation (head_modifiersText rfl _ (space _))
        (head_modifiersText rfl _ rfl),
      spelling_modifiersText writable (space _), spelling_space, spelling_quote]
    simp [ClausePhrase.tokens, writtenWord, writtenRelation, writtenTerm]
  · rw [String.empty_append, spelling_quote]
    rfl

theorem Connective.spelling_toCql {k : Connective} (writable : ∀ m ∈ k.modifiers, m.Writable)
    (rest : List Char) :
    spelling (k.toCql.toList ++ rest) =
      k.op.written.1 :: modifierTokens (k.modifiers.map Modifier.phrase) ++ spelling rest := by
  have capitals (cs : List Char) (stops : cs.head?.all endsWord = true) :
      spelling (k.op.capitals.toList ++ cs) = k.op.written.1 :: spelling cs := by
    cases k.op <;> exact spelling_bareword rfl rfl rfl stops
  have space (cs : List Char) : (" ".toList ++ cs).head?.all endsWord = true := rfl
  simp only [Connective.toCql, String.toList_append, List.append_assoc]
  rw [spelling_space, capitals _ (head_modifiersText rfl _ (space _)),
    spelling_modifiersText writable (space _), spelling_space]
  rfl

namespace Node

theorem operandText_boolean (k : Connective) (left right : Node) :
    (Node.boolean k left right).operandText =
      "(" ++ left.operandText ++ k.toCql ++ right.operandText ++ ")" := by
  rw [operandText, isBoolean, inParens, if_pos rfl, toCql_boolean]
  simp [String.append_assoc]

theorem spelling_operandText {n : Node} (writable : ∀ m ∈ n.modifiers, m.Writable)
    (rest : List Char) :
    spelling (n.operandText.toList ++ rest) = n.operandPhrase.tokens ++ spelling rest := by
  induction n generalizing rest with
  | clause c =>
    have text : (Node.clause c).operandText = c.toCql := toCql_clause c
    rw [text]
    exact c.spelling_toCql writable rest
  | boolean k left right ihl ihr =>
    have opening (cs : List Char) :
        spelling ("(".toList ++ cs) = .spelled .openParen "(" :: spelling cs :=
      spelling_separator (c := '(') rfl cs
    have closing (cs : List Char) :
        spelling (")".toList ++ cs) = .spelled .closeParen ")" :: spelling cs :=
      spelling_separator (c := ')') rfl cs
    simp only [modifiers, List.mem_append] at writable
    rw [operandText_boolean]
    simp only [String.toList_append, List.append_assoc]
    rw [opening, ihl fun m h => writable m (.inl (.inr h)),
      k.spelling_toCql fun m h => writable m (.inl (.inl h)),
      ihr fun m h => writable m (.inr h), closing]
    simp [operandPhrase, ClausePhrase.tokens, QueryPhrase.tokens, ChainPhrase.tokens]

/-- Canonical text spells the tokens of the phrase that the tree stands for. -/
theorem spelling_toCql {n : Node} (writable : ∀ m ∈ n.modifiers, m.Writable) :
    spelling n.toCql.toList = n.phrase.tokens := by
  cases n with
  | clause c =>
    have text := c.spelling_toCql writable []
    rw [toCql_clause]
    simpa [phrase, QueryPhrase.tokens, ChainPhrase.tokens] using text
  | boolean k left right =>
    simp only [modifiers, List.mem_append] at writable
    have text := right.spelling_operandText (fun m h => writable m (.inr h)) []
    rw [List.append_nil, spelling_nil, List.append_nil] at text
    rw [toCql_boolean]
    simp only [String.toList_append, List.append_assoc]
    rw [spelling_operandText fun m h => writable m (.inl (.inr h)),
      k.spelling_toCql fun m h => writable m (.inl (.inl h)), text]
    simp [phrase, QueryPhrase.tokens, ChainPhrase.tokens]

end Node

theorem greedyModifiers_phrases (ms : List Modifier) {after : List Token}
    (stops : NextIsNot (Token.isKind .comparison) after) :
    GreedyModifiers (ms.map Modifier.phrase) after := by
  induction ms with
  | nil => trivial
  | cons m ms ih =>
    refine ⟨fun _ => ?_, ih⟩
    cases ms with
    | nil => exact stops
    | cons m' ms => rfl

/-- An unquoted word is no keyword, so a written relation cannot be taken for an operator. -/
theorem isRelation_writtenRelation (relation : String) :
    (writtenRelation relation).1.isRelation = true := by
  cases symbol : isSymbol relation with
  | true => simp [writtenRelation, Token.spelled, relationKind, symbol, Token.isRelation]
  | false =>
    cases quotes : needsQuotes relation with
    | true =>
      simp [writtenRelation, Token.spelled, relationKind, symbol, wordKind, quotes,
        Token.isRelation]
    | false =>
      have plain : BooleanOp.ofKeyword? relation = none := by
        simp only [needsQuotes, Bool.or_eq_false_iff] at quotes
        simpa using quotes.2
      simp [writtenRelation, Token.spelled, relationKind, symbol, wordKind, quotes,
        Token.isRelation, Token.lower, BooleanOp.ofKeyword?_lowercase, plain]

theorem SearchClause.phrase_greedy (c : SearchClause) (after : List Token) :
    c.phrase.Greedy after := by
  unfold SearchClause.phrase
  split
  · exact ⟨greedyModifiers_phrases _ rfl, trivial⟩
  · trivial

theorem SearchClause.phrase_settled (c : SearchClause) {after : List Token}
    (ends : EndsClause after) : c.phrase.Settled after := by
  unfold SearchClause.phrase
  split
  · exact ⟨isRelation_writtenRelation c.relation, ends.not_isRelation⟩
  · exact ends.not_isRelation

namespace Node

/-- An operand starts with a parenthesis or a word. -/
theorem operandPhrase_start (n : Node) (after : List Token) :
    NextIsNot (Token.isKind .comparison) (n.operandPhrase.tokens ++ after) := by
  cases n with
  | boolean k left right => rfl
  | clause c =>
    simp only [operandPhrase, SearchClause.phrase]
    split
    · exact not_comparison_of_isWord (writtenWord c.field).2
    · rfl

theorem operandPhrase_greedy (n : Node) (after : List Token) : n.operandPhrase.Greedy after := by
  induction n generalizing after with
  | clause c => exact c.phrase_greedy after
  | boolean k left right ihl ihr =>
    exact ⟨ihl _, greedyModifiers_phrases _ (right.operandPhrase_start _), ihr _, trivial⟩

theorem operandPhrase_settled (n : Node) {after : List Token} (ends : EndsClause after) :
    n.operandPhrase.Settled after := by
  induction n generalizing after with
  | clause c => exact c.phrase_settled ends
  | boolean k left right ihl ihr =>
    have closes : EndsClause (Token.spelled .closeParen ")" :: after) := rfl
    exact ⟨ihl (ChainPhrase.endsClause _ closes), ihr closes, trivial⟩

theorem phrase_greedy (n : Node) : n.phrase.Greedy [] := by
  cases n with
  | clause c => exact ⟨c.phrase_greedy _, trivial⟩
  | boolean k left right =>
    exact ⟨left.operandPhrase_greedy _, greedyModifiers_phrases _ (right.operandPhrase_start _),
      right.operandPhrase_greedy _, trivial⟩

theorem phrase_settled (n : Node) : n.phrase.Settled [] := by
  cases n with
  | clause c => exact ⟨c.phrase_settled rfl, trivial⟩
  | boolean k left right =>
    exact ⟨left.operandPhrase_settled (ChainPhrase.endsClause _ rfl),
      right.operandPhrase_settled rfl, trivial⟩

end Node
end ContextualQuery
