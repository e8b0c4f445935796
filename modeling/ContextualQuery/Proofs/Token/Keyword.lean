import ContextualQuery.Proofs.Text.Lowercase
import ContextualQuery.Proofs.Token.Partition
import ContextualQuery.Query.Parser

/-!
# Words that spell an operator

Reading tests the full lowercase form of a bareword for a keyword; writing tests the word itself,
with nothing but ASCII letters lowered. No foreign letter has a letter of a keyword in its lowercase
form, so the two tests are one.

* `lexeme_bareword_cases`: what a bareword is made of;
* `needsQuotes_bareword`: a bareword could only need quotes for being a keyword;
* `keyword_tests_agree`: a bareword is an operator exactly if writing would quote it.
-/
namespace ContextualQuery

/-- A bareword runs up to a character that ends words, and starts with no quotation mark. -/
theorem lexeme_bareword_cases {c : Char} {cs : List Char} (first : isBlank c = false)
    (h : (lexeme c cs).kind = .bareword) :
    endsWord c = false ∧ isQuoteMark c = false ∧
      (lexeme c cs).text = c :: cs.takeWhile (!endsWord ·) := by
  unfold lexeme at h ⊢
  by_cases separator : isSeparator c = true
  · rw [if_pos separator] at h
    obtain kind | kind | kind := separatorKind_cases c <;> rw [kind] at h <;> cases h
  · rw [if_neg separator] at h ⊢
    by_cases comparison : isComparisonChar c = true
    · rw [if_pos comparison] at h
      cases h
    · rw [if_neg comparison] at h ⊢
      by_cases mark : isQuoteMark c = true
      · rw [if_pos mark] at h
        dsimp only at h
        split at h <;> cases h
      · rw [if_neg mark]
        simp_all [endsWord]

/-- The text of a bareword could be written without quotes, were it not for the keywords. -/
theorem needsQuotes_bareword {query : String} {t : Token} (ht : t ∈ tokenize query)
    (bare : t.kind = .bareword) : needsQuotes t.text = (BooleanOp.ofKeyword? t.text).isSome := by
  obtain ⟨-, c, cs, after, -, -, spells, -⟩ := spells_of_mem_tokenize ht
  obtain ⟨plain, notMark, text⟩ := lexeme_bareword_cases spells.first (spells.kind ▸ bare)
  have chars : t.text.toList = c :: (cs ++ after).takeWhile (!endsWord ·) := by
    rw [spells.text, String.toList_ofList, text]
  have noEnd : ((cs ++ after).takeWhile (!endsWord ·)).any endsWord = false := by
    apply List.any_eq_false.mpr
    intro d hd
    have all := List.all_eq_true.mp (List.all_takeWhile (p := (!endsWord ·)) (l := cs ++ after)) d hd
    simpa using all
  simp [needsQuotes, chars, plain, notMark, noEnd]

/-- A word spells an operator, ASCII case apart, exactly if its full lowercase form does. So a
bareword of a query is taken for an operator, and not for a relation after a word, exactly if the
word could not be written without quotes. -/
theorem keyword_tests_agree :
    (∀ word : String, BooleanOp.ofKeyword? (Text.lowercase word) = BooleanOp.ofKeyword? word) ∧
      ∀ query : String, ∀ t ∈ tokenize query, t.kind = .bareword →
        t.operator? = BooleanOp.ofKeyword? t.text ∧
          t.operator?.isSome = needsQuotes t.text ∧ t.isRelation = !needsQuotes t.text := by
  refine ⟨BooleanOp.ofKeyword?_lowercase, ?_⟩
  intro query t ht bare
  have lowered : BooleanOp.ofKeyword? t.lower = BooleanOp.ofKeyword? t.text :=
    BooleanOp.ofKeyword?_lowercase t.text
  have operator : t.operator? = BooleanOp.ofKeyword? t.text := by
    rw [Token.operator?, if_pos bare, lowered]
  have relation : t.isRelation = (BooleanOp.ofKeyword? t.text).isNone := by
    rw [Token.isRelation, bare, lowered]
  have quoted := needsQuotes_bareword ht bare
  refine ⟨operator, ?_, ?_⟩
  · rw [operator, quoted]
  · rw [relation, quoted, Option.not_isSome]

/-- A keyword in mixed case after a word of two letters, the first of two bytes. -/
theorem keyword_tests_agree_mixed_case :
    (⟨.bareword, "aNd", 4, 7⟩ : Token) ∈ tokenize "éx aNd y" ∧
      needsQuotes "aNd" = true ∧ (Token.mk .bareword "aNd" 4 7).isRelation = false := by
  have written : (⟨.bareword, "aNd", 4, 7⟩ : Token) ∈ tokenize "éx aNd y" := by decide +kernel
  obtain ⟨operator, quoted, relation⟩ := keyword_tests_agree.2 "éx aNd y" _ written rfl
  have isOperator : (BooleanOp.ofKeyword? "aNd").isSome = true := by decide +kernel
  have needs : needsQuotes "aNd" = true := by rw [← quoted, operator, isOperator]
  exact ⟨written, needs, by rw [relation, needs]; rfl⟩

/-- A capital sigma at the end of a word and a dotted capital I are lowered to other characters than
in the middle of one, or to more than one, and neither makes a keyword. -/
example : Text.lowercase "ΑΝΔΣ" = "ανδς" ∧ Text.lowercase "İ" = "i̇" ∧
    BooleanOp.ofKeyword? "aNd" = some .and ∧ BooleanOp.ofKeyword? "ΟR" = none := by
  decide +kernel

end ContextualQuery
