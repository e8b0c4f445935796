import ContextualQuery.Proofs.Text.Lowercase
import ContextualQuery.Proofs.Token.Place
import ContextualQuery.Query.Parser

/-!
# Written words are read back

What is written as a quoted text or as a word is read back as one token with that text. The token
takes the whole written form and nothing of what follows it.

* `Cursor.next_written`: a written form that is one lexeme is the next token;
* `ofKeyword?_of_wordKind`: only words that spell no operator stand bare;
* `written_words_retokenize`: both written forms, before any text that they can be told from.
-/
namespace ContextualQuery

/-- A written form that is one lexeme is the next token, from its first character to its last. -/
theorem Cursor.next_written {form text rest : List Char} {kind : TokenKind} {c : Char}
    {cs : List Char} (chars : form = c :: cs) (blank : isBlank c = false)
    (lexed : lexeme c (cs ++ rest) = ⟨kind, c :: cs, text⟩) (offset : Nat) :
    (Cursor.mk offset (form ++ rest)).next =
      (⟨kind, String.ofList text, offset, offset + Text.byteSize form⟩,
        ⟨offset + Text.byteSize form, rest⟩) := by
  subst chars
  have here : (Cursor.mk offset (c :: cs ++ rest)).skipBlanks = ⟨offset, c :: (cs ++ rest)⟩ := by
    simp [skipBlanks_eq, blank, Text.byteSize]
  have taken : (c :: (cs ++ rest)).take (c :: cs).length = c :: cs := List.take_left
  have dropped : (c :: (cs ++ rest)).drop (c :: cs).length = rest := List.drop_left
  simp only [next, here, lexed, advance, taken, dropped]

theorem BooleanOp.ofKeyword?_eq_none_iff {word : String} :
    ofKeyword? word = none ↔ ∀ op : BooleanOp, Text.asciiLowercase word ≠ op.keyword := by
  have listed (op : BooleanOp) : op ∈ all := by cases op <;> decide
  simp [ofKeyword?, listed]

/-- A word that is written bare spells no operator, in capitals or not. -/
theorem ofKeyword?_of_wordKind {word : String} (bare : wordKind word = .bareword) :
    BooleanOp.ofKeyword? word = none := by
  have plain : needsQuotes word = false := by simpa [wordKind] using bare
  simp only [needsQuotes, Bool.or_eq_false_iff] at plain
  simpa using plain.2

/-- In front of any text, a text in quotes is one quoted token that ends where the quotes do. A
word, where nothing follows or a character that ends words, is one token with the text of the word
that ends where its written form does. That token is a bareword only if the word spells no operator
in any case, so that it is never taken for one. -/
theorem written_words_retokenize (word rest : String) :
    (Cursor.ofQuery (quote word ++ rest)).next =
        (⟨.quoted, word, 0, Text.byteSize (quote word).toList⟩,
          ⟨Text.byteSize (quote word).toList, rest.toList⟩) ∧
      (rest.toList.head?.all endsWord = true →
        ∃ t : Token, (Cursor.ofQuery (wordText word ++ rest)).next =
            (t, ⟨Text.byteSize (wordText word).toList, rest.toList⟩) ∧
          t.isWord = true ∧ t.text = word ∧ t.start = 0 ∧
          t.stop = Text.byteSize (wordText word).toList ∧ t.operator? = none ∧
          (t.kind = .bareword → ∀ op : BooleanOp, Text.asciiLowercase word ≠ op.keyword)) := by
  constructor
  · have chars : (quote word).toList = '"' :: (escapeQuoted word.toList ++ ['"']) := by simp [quote]
    have read := Cursor.next_written chars rfl (lexeme_quote word.toList rest.toList) 0
    rw [String.ofList_toList, Nat.zero_add] at read
    rw [Cursor.ofQuery, String.toList_append]
    exact read
  · intro stops
    obtain ⟨c, cs, chars, blank, lexed⟩ := lexeme_wordText word stops
    have read := Cursor.next_written chars blank lexed 0
    rw [String.ofList_toList, Nat.zero_add] at read
    refine ⟨⟨wordKind word, word, 0, _⟩, ?_, ?_, rfl, rfl, rfl, ?_, ?_⟩
    · rw [Cursor.ofQuery, String.toList_append]
      exact read
    · cases quoted : needsQuotes word <;> simp [wordKind, Token.isWord, quoted]
    · unfold Token.operator?
      split
      · rename_i bare
        rw [Token.lower, BooleanOp.ofKeyword?_lowercase]
        exact ofKeyword?_of_wordKind bare
      · rfl
    · intro bare
      exact BooleanOp.ofKeyword?_eq_none_iff.mp (ofKeyword?_of_wordKind bare)

/-- A quotation mark or a backslash inside a word does not keep it from standing bare; an operator
in mixed case is quoted, and then a slash may follow it at once. -/
theorem written_words_retokenize_marks :
    wordText "a\"b\\" = "a\"b\\" ∧
      (∃ t : Token, (Cursor.ofQuery ("a\"b\\" ++ "/x")).next = (t, ⟨4, ['/', 'x']⟩) ∧
        t.text = "a\"b\\" ∧ t.operator? = none) ∧
      wordText "nOt" = "\"nOt\"" ∧
      ∃ t : Token, (Cursor.ofQuery ("\"nOt\"" ++ "/x")).next = (t, ⟨5, ['/', 'x']⟩) ∧
        t.text = "nOt" ∧ t.operator? = none := by
  have bare : wordText "a\"b\\" = "a\"b\\" := by decide
  have quoted : wordText "nOt" = "\"nOt\"" := by decide
  obtain ⟨t, read, -, text, -, -, plain, -⟩ :=
    (written_words_retokenize "a\"b\\" "/x").2 (by decide)
  obtain ⟨u, read', -, text', -, -, plain', -⟩ := (written_words_retokenize "nOt" "/x").2 (by decide)
  rw [bare] at read
  rw [quoted] at read'
  exact ⟨bare, ⟨t, read, text, plain⟩, quoted, u, read', text', plain'⟩

end ContextualQuery
