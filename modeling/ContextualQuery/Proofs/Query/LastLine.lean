import ContextualQuery.Proofs.Query.Rendering
import ContextualQuery.Settings.Basic
import ContextualQuery.Text.Basic

/-!
# How a printed query ends

A query is printed without the line feeds at its end, and with one line feed after that. Canonical
text and FQ end in a mark of their own, whatever the tree and its layout, and XCQL in the line feed
of its last tag. So nothing that is written of a query is lost.

* `Node.getLast?_toCql`, `Fq.getLast?_toFq`, `Xcql.toXcql_ends`: the last characters;
* `OutputSettings.render_eq_trimNewlines_append`: what trimming takes from a rendering.
-/
namespace ContextualQuery

namespace Text

/-- Only the tail is dropped where the character before it stays. -/
theorem dropEndWhile_append {p : Char → Bool} {cs tail : List Char}
    (stays : ∀ c ∈ cs.getLast?, p c = false) (dropped : ∀ c ∈ tail, p c = true) :
    dropEndWhile p (cs ++ tail) = cs := by
  have last : cs.reverse.dropWhile p = cs.reverse := by
    cases chars : cs.reverse with
    | nil => rfl
    | cons c rest =>
      have head : c ∈ cs.getLast? := by
        rw [← List.head?_reverse, chars]
        rfl
      rw [List.dropWhile_cons_of_neg (by simp [stays c head])]
  rw [dropEndWhile, List.reverse_append, List.dropWhile_append_of_pos (by simpa using dropped), last,
    List.reverse_reverse]

/-- Line feeds after a text that ends in another character are all that is trimmed. -/
theorem trimNewlines_append {text feeds : String} {c : Char}
    (last : text.toList.getLast? = some c) (mark : c ≠ '\n') (all : ∀ d ∈ feeds.toList, d = '\n') :
    trimNewlines (text ++ feeds) = text := by
  have stays : ∀ d ∈ text.toList.getLast?, (d == '\n') = false := by
    intro d hd
    rw [last, Option.mem_some] at hd
    subst hd
    simpa using mark
  have dropped : ∀ d ∈ feeds.toList, (d == '\n') = true := by simpa using all
  rw [trimNewlines, String.toList_append, dropEndWhile_append stays dropped, String.ofList_toList]

theorem trimNewlines_eq_self {text : String} {c : Char} (last : text.toList.getLast? = some c)
    (mark : c ≠ '\n') : trimNewlines text = text := by
  have none_trimmed : ∀ d ∈ "".toList, d = '\n' := by simp
  have trimmed := trimNewlines_append last mark none_trimmed
  rwa [String.append_empty] at trimmed

/-- Nothing trimmed ends in a line feed. -/
theorem getLast?_trimNewlines (text : String) :
    ∀ c ∈ (trimNewlines text).toList.getLast?, c ≠ '\n' := by
  intro c hc
  rw [trimNewlines, String.toList_ofList, dropEndWhile, List.getLast?_reverse] at hc
  have head := List.head?_dropWhile_not (· == '\n') text.toList.reverse
  rw [hc] at head
  simpa using head

end Text

/-- A text ends as its last part does. -/
theorem getLast?_append_of_some {front back : String} {c : Char}
    (h : back.toList.getLast? = some c) : (front ++ back).toList.getLast? = some c := by
  rw [String.toList_append, List.getLast?_append, h]
  rfl

theorem getLast?_quote (text : String) : (quote text).toList.getLast? = some '"' := by
  rw [quote, String.toList_ofList, List.getLast?_concat]

theorem SearchClause.getLast?_toCql (c : SearchClause) : c.toCql.toList.getLast? = some '"' :=
  getLast?_append_of_some (getLast?_quote c.term)

namespace Node

/-- Canonical text ends in the quotation mark of a term, or in the parenthesis around a right
operand. -/
theorem getLast?_toCql (n : Node) :
    n.toCql.toList.getLast? = some '"' ∨ n.toCql.toList.getLast? = some ')' := by
  cases n with
  | clause c =>
    rw [toCql_clause]
    exact .inl c.getLast?_toCql
  | boolean k left right =>
    rw [toCql_boolean]
    cases right with
    | clause c =>
      have text : (Node.clause c).operandText = c.toCql := toCql_clause c
      rw [text]
      exact .inl (getLast?_append_of_some c.getLast?_toCql)
    | boolean k' left' right' =>
      rw [operandText_boolean]
      exact .inr (getLast?_append_of_some (getLast?_append_of_some rfl))

theorem trimNewlines_toCql (n : Node) : Text.trimNewlines n.toCql = n.toCql := by
  obtain quoted | grouped := n.getLast?_toCql
  · exact Text.trimNewlines_eq_self quoted (by decide)
  · exact Text.trimNewlines_eq_self grouped (by decide)

end Node

namespace Fq

/-- FQ ends in the brace that closes its object. -/
theorem getLast?_toFq (layout : Layout) (n : Node) :
    (n.toFq layout).toList.getLast? = some '\x7d' := by
  rw [toFq_eq, nodeText_eq_plainText]
  cases n with
  | clause c => exact getLast?_append_of_some rfl
  | boolean k left right => exact getLast?_append_of_some rfl

end Fq

namespace Xcql

/-- XCQL ends in the line of a tag. -/
theorem toXcql_ends (indent : Char) (n : Node) :
    ∃ front tag, n.toXcql indent = front ++ ("</" ++ tag ++ ">") ++ "\n" := by
  have lines : ∃ tag body, nodeLines n 0 = element 0 tag body := by
    cases n with
    | clause c => exact ⟨_, _, rfl⟩
    | boolean k left right => exact ⟨_, _, rfl⟩
  obtain ⟨tag, body, lines⟩ := lines
  refine ⟨lineText indent 0 ("<" ++ tag ++ ">") ++ textOf indent body, tag, ?_⟩
  rw [toXcql_eq, lines, textOf_element, lineText]
  simp [lineText, String.append_assoc]

end Xcql

namespace OutputSettings

/-- Trimming leaves canonical text and FQ as they are, and takes from XCQL the line feed of its last
tag. -/
theorem render_eq_trimNewlines_append (o : OutputSettings) (n : Node) :
    o.render n = Text.trimNewlines (o.render n) ++ if o.format = .xcql then "\n" else "" := by
  unfold render
  cases o.format with
  | xcql =>
    obtain ⟨front, tag, text⟩ := Xcql.toXcql_ends o.xmlIndent n
    have last : (front ++ ("</" ++ tag ++ ">")).toList.getLast? = some '>' :=
      getLast?_append_of_some (getLast?_append_of_some rfl)
    have feed : ∀ d ∈ "\n".toList, d = '\n' := by simp
    simp only [text, ↓reduceIte]
    rw [Text.trimNewlines_append last (by decide) feed]
  | fq =>
    have last := Fq.getLast?_toFq ⟨o.indent, o.newline⟩ n
    simp [Text.trimNewlines_eq_self last (by decide)]
  | cql => simp [n.trimNewlines_toCql]

end OutputSettings
end ContextualQuery
