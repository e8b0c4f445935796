import ContextualQuery.Proofs.Token.Partition

/-!
# The tokens of a concatenation

What partitions a text into tokens is settled by its characters: there is one partition from a byte
on, and further on it is the same one, moved. Two texts side by side are partitioned one after the
other, as long as the first leaves no quotation open and the second starts with a character that no
token goes on with.

* `Partition.eq_tokens`: the only partition is the one that reading gives;
* `Partition.shift`: the same characters further on;
* `Partition.append`: one text after another;
* `tokenize_append_blanks`: two texts with blanks between them.
-/
namespace ContextualQuery

def Token.shift (n : Nat) (t : Token) : Token :=
  { t with start := t.start + n, stop := t.stop + n }

/-- A token is what it is without its place, and its place. -/
theorem Token.eq_of_placeless {t u : Token} (same : t.placeless = u.placeless)
    (start : t.start = u.start) (stop : t.stop = u.stop) : t = u := by
  cases t
  cases u
  simp_all [placeless]

namespace Token.Spells

variable {t : Token} {c : Char} {cs rest : List Char}

theorem shift (h : t.Spells c cs rest) (n : Nat) : (t.shift n).Spells c cs rest := by
  have stop := h.stop
  refine ⟨h.first, h.raw, h.kind, h.text, ?_⟩
  simp only [Token.shift]
  omega

/-- A token stays the same where other text follows it, if that starts alike or with a delimiter. -/
theorem follow (h : t.Spells c cs rest) (closed : t.kind ≠ .unterminated) {more : List Char}
    (follows : more.head? = rest.head? ∨ more.head?.all isDelimiter = true) :
    t.Spells c cs more := by
  have same : lexeme c (cs ++ more) = lexeme c (cs ++ rest) :=
    lexeme_append h.raw (h.kind ▸ closed) follows
  exact ⟨h.first, same ▸ h.raw, same ▸ h.kind, same ▸ h.text, h.stop⟩

/-- A token that stands after blanks is the next one. -/
theorem next (h : t.Spells c cs rest) {p : Nat} {blanks : List Char}
    (blank : blanks.all isBlank = true) (start : t.start = p + Text.byteSize blanks) :
    (Cursor.mk p (blanks ++ (c :: cs ++ rest))).tokens =
      t :: (Cursor.mk t.stop rest).tokens := by
  have taken : (blanks ++ (c :: cs ++ rest)).takeWhile isBlank = blanks := by
    apply takeWhile_append_of_head
    · exact List.all_eq_true.mp blank
    · simp [h.first]
  have left : (Cursor.mk p (blanks ++ (c :: cs ++ rest))).rest.dropWhile isBlank =
      c :: (cs ++ rest) := by
    rw [List.dropWhile_append_of_pos (List.all_eq_true.mp blank)]
    simp [h.first]
  obtain ⟨tokens, head, -⟩ := Cursor.tokens_of_lexeme left
  obtain ⟨starts, stops, after⟩ := Cursor.next_of_lexeme left h.raw
  have place : t.start = (Cursor.mk p (blanks ++ (c :: cs ++ rest))).next.1.start := by
    rw [start, starts, taken]
  have same : t = (Cursor.mk p (blanks ++ (c :: cs ++ rest))).next.1 := by
    apply Token.eq_of_placeless
    · rw [head, placeless, h.kind, h.text]
      rfl
    · exact place
    · rw [h.stop, stops, place]
  rw [tokens, after, ← same]

end Token.Spells

namespace Partition

variable {p : Nat} {chars more : List Char} {ts us : List Token}

/-- Characters are partitioned in one way only: as they are read. -/
theorem eq_tokens (h : Partition p chars ts) : ts = (Cursor.mk p chars).tokens := by
  induction h with
  | @done p cs blank =>
    have left : (Cursor.mk p cs).rest.dropWhile isBlank = [] := by
      rw [← List.append_nil (Cursor.mk p cs).rest]
      exact List.dropWhile_append_of_pos (List.all_eq_true.mp blank)
    exact (Cursor.tokens_of_blank left).symm
  | token blank start spells later ih => rw [spells.next blank start, ← ih]

/-- The same characters further on have the same tokens, moved as far. -/
theorem shift (h : Partition p chars ts) (n : Nat) :
    Partition (p + n) chars (ts.map (Token.shift n)) := by
  induction h with
  | done blank => exact .done blank
  | @token p blanks cs rest c t ts blank start spells later ih =>
    refine .token blank ?_ (spells.shift n) ih
    simp only [Token.shift]
    omega

/-- Blanks before a text move its tokens. -/
theorem blanks_append {blanks : List Char} (blank : blanks.all isBlank = true)
    (h : Partition (p + Text.byteSize blanks) chars ts) : Partition p (blanks ++ chars) ts := by
  cases h with
  | done rest => exact .done (by rw [List.all_append, blank, rest]; rfl)
  | @token _ inner cs rest c t ts blank' start spells later =>
    rw [← List.append_assoc]
    refine .token (by rw [List.all_append, blank, blank']; rfl) ?_ spells later
    rw [start, Text.byteSize_append]
    omega

/-- The tokens of a text, and after them those of another that starts with a delimiter. -/
theorem append (h : Partition p chars ts) (closed : ∀ t ∈ ts, t.kind ≠ .unterminated)
    (delimits : more.head?.all isDelimiter = true)
    (next : Partition (p + Text.byteSize chars) more us) : Partition p (chars ++ more) (ts ++ us) := by
  induction h with
  | done blank => exact next.blanks_append blank
  | @token p blanks cs rest c t ts blank start spells later ih =>
    have follows : (rest ++ more).head? = rest.head? ∨
        (rest ++ more).head?.all isDelimiter = true := by
      cases rest with
      | nil => exact .inr delimits
      | cons d ds => exact .inl rfl
    have after : Partition (t.stop + Text.byteSize rest) more us := by
      have place : p + Text.byteSize (blanks ++ (c :: cs ++ rest)) =
          t.stop + Text.byteSize rest := by
        rw [spells.stop, start]
        simp only [Text.byteSize_append]
        omega
      rwa [place] at next
    have front : t.Spells c cs (rest ++ more) := spells.follow (closed t List.mem_cons_self) follows
    have others := ih (fun u hu => closed u (List.mem_cons_of_mem _ hu)) after
    rw [List.append_assoc, List.append_assoc]
    exact .token blank start front others

end Partition

/-- If a text leaves no quotation open, then the tokens of that text, some blanks and any other text
are the tokens of the first, and after them those of the second, each as many bytes further on as
the first text and the blanks take. -/
theorem tokenize_append_blanks (a b : String)
    (closed : ∀ t ∈ tokenize a, t.kind ≠ .unterminated) (blanks : String)
    (nonempty : blanks ≠ "") (blank : blanks.toList.all isBlank = true) :
    tokenize (a ++ blanks ++ b) =
      tokenize a ++ (tokenize b).map (Token.shift (Text.byteSize (a ++ blanks).toList)) := by
  have first : Partition 0 a.toList (tokenize a) := tokenize_partition a
  have second := (tokenize_partition b).shift (Text.byteSize (a ++ blanks).toList)
  rw [String.toList_append, Text.byteSize_append, ← Nat.add_assoc] at second
  have delimits : (blanks.toList ++ b.toList).head?.all isDelimiter = true := by
    cases chars : blanks.toList with
    | nil => exact absurd (String.toList_eq_nil_iff.mp chars) nonempty
    | cons c cs =>
      rw [chars, List.all_cons, Bool.and_eq_true] at blank
      simp [isDelimiter, blank.1]
  have whole := first.append closed delimits (second.blanks_append blank)
  have text : (a ++ blanks ++ b).toList = a.toList ++ (blanks.toList ++ b.toList) := by
    simp only [String.toList_append, List.append_assoc]
  rw [tokenize, Cursor.ofQuery, text, ← whole.eq_tokens, String.toList_append, Text.byteSize_append]

/-- A quotation that touches a comparison, before a line break of two characters; the second text
leaves a quotation open, which moves like any other token. -/
theorem tokenize_append_blanks_open :
    (∀ t ∈ tokenize "é>\"x y\"", t.kind ≠ .unterminated) ∧ "\r\n".toList.all isBlank = true ∧
      tokenize ("é>\"x y\"" ++ "\r\n" ++ "ü 'z") =
        [⟨.bareword, "é", 0, 2⟩, ⟨.comparison, ">", 2, 3⟩, ⟨.quoted, "x y", 3, 8⟩,
          ⟨.bareword, "ü", 10, 12⟩, ⟨.unterminated, "z", 13, 15⟩] := by
  have closed : ∀ t ∈ tokenize "é>\"x y\"", t.kind ≠ .unterminated := by decide +kernel
  have blank : "\r\n".toList.all isBlank = true := by decide
  refine ⟨closed, blank, ?_⟩
  rw [tokenize_append_blanks "é>\"x y\"" "ü 'z" closed "\r\n" (by decide) blank]
  decide +kernel

end ContextualQuery
