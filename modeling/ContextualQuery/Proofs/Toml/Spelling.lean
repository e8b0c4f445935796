import ContextualQuery.Toml.Text
import ContextualQuery.Toml.Writer

/-!
# TOML strings are read as they were written

Whichever of its forms a string takes, the reader finds the same form and the same string in it.

* `readBasic_escapeBasic`, `readLiteral_append`: the forms on one line;
* `readBasicLines_escapeLines`, `readLiteralLines_append`: the forms on several lines, at whose end
  up to two marks belong to the string;
* `readString?_write`: all four together.
-/
namespace ContextualQuery.Toml

/-- The line feed apart, the controls are what only an escape can write. -/
theorem isControl_eq_needsEscape {c : Char} (feed : c ≠ '\n') : isControl c = needsEscape c := by
  have kept : (c != '\n') = true := bne_iff_ne.mpr feed
  rw [isControl, needsEscape, kept, Bool.and_true]

theorem toNat_lt_of_needsEscape {c : Char} (h : needsEscape c = true) : c.toNat < 256 := by
  simp only [needsEscape, Bool.or_eq_true, Bool.and_eq_true, decide_eq_true_eq, beq_iff_eq] at h
  obtain ⟨⟨small, -⟩, -⟩ | rfl := h
  · omega
  · decide

theorem codePoint?_hexCode {c : Char} (h : needsEscape c = true) :
    codePoint? 4 (Text.hexCode true c.toNat) = some c := by
  have valid : c.toNat.isValidChar := c.valid
  have four : (Text.hexCode true c.toNat).length = 4 := rfl
  simp [codePoint?, four, Text.hexValue?_hexCode true (toNat_lt_of_needsEscape h), valid]

/-- What follows a backslash in a written string is an escape for a character, and no end of a
line. -/
structure Escapes (c : Char) (e : List Char) : Prop where
  read : ∀ rest, readEscape (e ++ rest) = .ok (c, rest)
  here : ∀ rest, joinedLine? (e ++ rest) = none

theorem escapes_letter {c d : Char} (letter : escapeLetter? d = some c) : Escapes c [d] where
  read rest := by simp [readEscape, letter]
  here rest := by
    unfold escapeLetter? at letter
    split at letter
    case h_9 => cases letter
    all_goals rfl

theorem escapes_codePoint {c : Char} (h : needsEscape c = true) :
    Escapes c ('u' :: Text.hexCode true c.toNat) where
  read rest := by
    have point := codePoint?_hexCode h
    simp only [Text.hexCode] at point
    simp [readEscape, escapeLetter?, Text.hexWidth?, Text.hexCode, point]
  here rest := by simp [joinedLine?, isSpace, newline?]

/-- A character that is neither a quote nor a line feed is written as it is or with an escape. -/
theorem escapeChar_cases {c : Char} (feed : c ≠ '\n') :
    (escapeChar c = [c] ∧ c ≠ '\\' ∧ c ≠ '\r' ∧ isControl c = false) ∨
      ∃ e, escapeChar c = '\\' :: e ∧ Escapes c e := by
  unfold escapeChar
  split
  · exact .inr ⟨_, rfl, escapes_letter rfl⟩
  · exact .inr ⟨_, rfl, escapes_letter rfl⟩
  · exact .inr ⟨_, rfl, escapes_letter rfl⟩
  · exact .inr ⟨_, rfl, escapes_letter rfl⟩
  · exact .inr ⟨_, rfl, escapes_letter rfl⟩
  · rename_i carriage backslash
    split
    · rename_i control
      exact .inr ⟨_, rfl, escapes_codePoint control⟩
    · rename_i plain
      refine .inl ⟨rfl, backslash, carriage, ?_⟩
      rwa [isControl_eq_needsEscape feed, ← Bool.not_eq_true]

theorem readBasic_close (rest : List Char) : readBasic ('"' :: rest) = .ok ([], rest) := by
  rw [readBasic]
  rfl

theorem readBasic_escape {c : Char} {e : List Char} (escapes : Escapes c e)
    {cs text rest : List Char} (ih : readBasic cs = .ok (text, rest)) :
    readBasic ('\\' :: e ++ cs) = .ok (c :: text, rest) := by
  rw [List.cons_append, readBasic, if_neg (by decide), if_pos rfl]
  split
  · rename_i fault
    cases (escapes.read cs).symm.trans fault
  · rename_i read
    obtain ⟨rfl, rfl⟩ := Prod.mk.inj (Except.ok.inj ((escapes.read cs).symm.trans read))
    rw [ih]

theorem readBasic_plain {c : Char} (quote : c ≠ '"') (backslash : c ≠ '\\')
    (plain : isControl c = false) {cs text rest : List Char}
    (ih : readBasic cs = .ok (text, rest)) : readBasic (c :: cs) = .ok (c :: text, rest) := by
  rw [readBasic, if_neg quote, if_neg backslash, plain, ih]
  rfl

/-- A string between double quotes is read back. -/
theorem readBasic_escapeBasic (cs rest : List Char) :
    readBasic (escapeBasic cs ++ '"' :: rest) = .ok (cs, rest) := by
  induction cs with
  | nil => exact readBasic_close rest
  | cons c cs ih =>
    rw [escapeBasic, List.append_assoc]
    by_cases quote : c = '"'
    · subst quote
      exact readBasic_escape (escapes_letter rfl) ih
    by_cases feed : c = '\n'
    · subst feed
      exact readBasic_escape (escapes_letter rfl) ih
    rw [if_neg quote, if_neg feed]
    obtain ⟨same, backslash, -, plain⟩ | ⟨e, escaped, escapes⟩ := escapeChar_cases feed
    · rw [same]
      exact readBasic_plain quote backslash plain ih
    · rw [escaped]
      exact readBasic_escape escapes ih

/-- A literal string without its mark and without controls is read back. -/
theorem readLiteral_append {cs : List Char} (plain : ∀ c ∈ cs, isControl c = false)
    (mark : '\'' ∉ cs) (rest : List Char) :
    readLiteral (cs ++ '\'' :: rest) = .ok (cs, rest) := by
  induction cs with
  | nil =>
    rw [List.nil_append, readLiteral]
    rfl
  | cons c cs ih =>
    obtain ⟨first, others⟩ := not_or.mp (mt List.mem_cons.mpr mark)
    obtain ⟨here, later⟩ := List.forall_mem_cons.mp plain
    rw [List.cons_append, readLiteral, if_neg (Ne.symm first), here, ih later others]
    rfl

theorem markRun_cons_self (mark : Char) (cs : List Char) :
    markRun mark (mark :: cs) = markRun mark cs + 1 := by
  simp [markRun]

theorem markRun_cons_ne {mark c : Char} (h : c ≠ mark) (cs : List Char) :
    markRun mark (c :: cs) = 0 := by
  simp [markRun, h]

def NoMark (mark : Char) (rest : List Char) : Prop := rest.head? ≠ some mark

theorem markRun_of_noMark {mark : Char} {rest : List Char} (h : NoMark mark rest) :
    markRun mark rest = 0 := by
  cases rest with
  | nil => rfl
  | cons c rest => exact markRun_cons_ne (fun same => h (by rw [same]; rfl)) rest

/-- The closing marks of a string on several lines, and what follows. -/
def closingMarks (mark : Char) (rest : List Char) : List Char := mark :: mark :: mark :: rest

theorem markRun_closingMarks {mark : Char} {rest : List Char} (ends : NoMark mark rest) :
    markRun mark (closingMarks mark rest) = 3 := by
  simp only [closingMarks, markRun_cons_self, markRun_of_noMark ends]

theorem markRun_replicate_append (mark : Char) (n : Nat) (cs : List Char) :
    markRun mark (List.replicate n mark ++ cs) = n + markRun mark cs := by
  induction n with
  | zero => simp
  | succ n ih =>
    rw [List.replicate_succ, List.cons_append, markRun_cons_self, ih]
    omega

/-- Up to two marks before the closing ones belong to the string. -/
theorem closing?_replicate {mark : Char} {n : Nat} (few : n ≤ 2) {rest : List Char}
    (ends : NoMark mark rest) :
    closing? mark (List.replicate n mark ++ closingMarks mark rest) =
      some (List.replicate n mark, rest) := by
  have run : markRun mark (List.replicate n mark ++ closingMarks mark rest) = n + 3 := by
    rw [markRun_replicate_append, markRun_closingMarks ends]
  have drop : (List.replicate n mark ++ closingMarks mark rest).drop (n + 3) = rest := by
    simp [closingMarks, List.drop_append]
  have kept : min n 2 = n := by omega
  have length : min (n + 3) 5 = n + 3 := by omega
  simp [closing?, run, kept, length, drop]

theorem closing?_of_markRun {mark : Char} {cs : List Char} (short : markRun mark cs < 3) :
    closing? mark cs = none := by
  simp [closing?, short]

/-- In a written string either all that is left are the last quotes, or the next quotes are fewer
than three, those of the run that they go on with included. -/
theorem escapeLines_cases {run : Nat} (few : run ≤ 2) (cs rest : List Char) :
    (∃ n, n + run ≤ 2 ∧ cs = List.replicate n '"' ∧
        escapeLines run cs = List.replicate n '"') ∨
      markRun '"' (escapeLines run cs ++ closingMarks '"' rest) + run ≤ 2 := by
  induction cs generalizing run with
  | nil => exact .inl ⟨0, by omega, rfl, rfl⟩
  | cons c cs ih =>
    rw [escapeLines]
    by_cases quote : c = '"'
    · subst quote
      rw [if_pos rfl]
      by_cases third : run = 2
      · rw [if_pos third, List.cons_append, markRun_cons_ne (by decide)]
        omega
      · rw [if_neg third, List.cons_append, markRun_cons_self]
        obtain ⟨n, within, rfl, written⟩ | short := ih (show run + 1 ≤ 2 by omega)
        · exact .inl ⟨n + 1, by omega, rfl, by rw [written]; rfl⟩
        · omega
    · right
      rw [if_neg quote]
      split
      · rw [List.cons_append, markRun_cons_ne (by decide)]
        omega
      · rename_i feed
        obtain ⟨same, -⟩ | ⟨e, escaped, -⟩ := escapeChar_cases feed
        · rw [same, List.append_assoc, List.singleton_append, markRun_cons_ne quote]
          omega
        · rw [escaped, List.cons_append, List.cons_append, markRun_cons_ne (by decide)]
          omega

theorem readBasicLines_close {cs text rest : List Char}
    (closed : closing? '"' cs = some (text, rest)) : readBasicLines cs = .ok (text, rest) := by
  rw [readBasicLines.eq_def, closed]

theorem readBasicLines_escape {c : Char} {e : List Char} (escapes : Escapes c e)
    {cs text rest : List Char} (ih : readBasicLines cs = .ok (text, rest)) :
    readBasicLines ('\\' :: e ++ cs) = .ok (c :: text, rest) := by
  have opened : closing? '"' ('\\' :: (e ++ cs)) = none :=
    closing?_of_markRun (by rw [markRun_cons_ne (by decide)]; omega)
  rw [List.cons_append, readBasicLines, opened]
  simp only [↓reduceIte]
  split
  · rename_i joined
    cases (escapes.here cs).symm.trans joined
  · split
    · rename_i fault
      cases (escapes.read cs).symm.trans fault
    · rename_i read
      obtain ⟨rfl, rfl⟩ := Prod.mk.inj (Except.ok.inj ((escapes.read cs).symm.trans read))
      rw [ih]

/-- A character that stands for itself: no control, or the end of a line. -/
theorem readBasicLines_plain {c : Char} {cs text rest : List Char}
    (opened : closing? '"' (c :: cs) = none) (backslash : c ≠ '\\')
    (plain : c = '\n' ∨ isControl c = false) (ih : readBasicLines cs = .ok (text, rest)) :
    readBasicLines (c :: cs) = .ok (c :: text, rest) := by
  have stands : (isControl c && (newline? (c :: cs)).isNone) = false := by
    obtain rfl | plain := plain
    · rfl
    · rw [plain]
      rfl
  rw [readBasicLines, opened]
  simp only [if_neg backslash, stands, ih, Bool.false_eq_true, ↓reduceIte]

/-- A string between three double quotes is read back. -/
theorem readBasicLines_escapeLines {run : Nat} (few : run ≤ 2) (cs : List Char) {rest : List Char}
    (ends : NoMark '"' rest) :
    readBasicLines (escapeLines run cs ++ closingMarks '"' rest) = .ok (cs, rest) := by
  induction cs generalizing run with
  | nil => exact readBasicLines_close (closing?_replicate (n := 0) (by omega) ends)
  | cons c cs ih =>
    obtain ⟨n, within, all, written⟩ | short := escapeLines_cases few (c :: cs) rest
    · rw [written, all]
      exact readBasicLines_close (closing?_replicate (by omega) ends)
    · have opened := closing?_of_markRun
        (show markRun '"' (escapeLines run (c :: cs) ++ closingMarks '"' rest) < 3 by omega)
      rw [escapeLines] at opened ⊢
      by_cases quote : c = '"'
      · subst quote
        rw [if_pos rfl] at opened ⊢
        by_cases third : run = 2
        · rw [if_pos third]
          exact readBasicLines_escape (escapes_letter rfl) (ih (by omega))
        · rw [if_neg third] at opened ⊢
          exact readBasicLines_plain opened (by decide) (.inr (by decide)) (ih (by omega))
      rw [if_neg quote] at opened ⊢
      by_cases feed : c = '\n'
      · subst feed
        rw [if_pos rfl] at opened ⊢
        exact readBasicLines_plain opened (by decide) (.inl rfl) (ih (by omega))
      rw [if_neg feed, List.append_assoc] at opened ⊢
      obtain ⟨same, backslash, -, plain⟩ | ⟨e, escaped, escapes⟩ := escapeChar_cases feed
      · rw [same] at opened ⊢
        exact readBasicLines_plain opened backslash (.inr plain) (ih (by omega))
      · rw [escaped]
        exact readBasicLines_escape escapes (ih (by omega))

theorem readLiteralLines_close {cs text rest : List Char}
    (closed : closing? '\'' cs = some (text, rest)) : readLiteralLines cs = .ok (text, rest) := by
  rw [readLiteralLines.eq_def, closed]

theorem hasTriple_tail {mark c : Char} {cs : List Char} (h : hasTriple mark (c :: cs) = false) :
    hasTriple mark cs = false := by
  match cs with
  | [] => rfl
  | [_] => rfl
  | a :: b :: rest =>
    rw [hasTriple, Bool.or_eq_false_iff] at h
    exact h.2

/-- Without three marks in a row, either all that is left are at most two marks, or fewer than three
come next. -/
theorem hasTriple_cases {mark : Char} {cs : List Char} (h : hasTriple mark cs = false)
    (rest : List Char) :
    (∃ n ≤ 2, cs = List.replicate n mark) ∨ markRun mark (cs ++ rest) ≤ 2 := by
  match cs with
  | [] => exact .inl ⟨0, by omega, rfl⟩
  | [a] =>
    by_cases first : a = mark
    · exact .inl ⟨1, by omega, by rw [first]; rfl⟩
    · exact .inr (by rw [List.cons_append, markRun_cons_ne first]; omega)
  | [a, b] =>
    by_cases first : a = mark
    · by_cases second : b = mark
      · exact .inl ⟨2, by omega, by rw [first, second]; rfl⟩
      · right
        rw [first, List.cons_append, markRun_cons_self, List.cons_append, markRun_cons_ne second]
        omega
    · exact .inr (by rw [List.cons_append, markRun_cons_ne first]; omega)
  | a :: b :: c :: cs =>
    right
    rw [hasTriple, Bool.or_eq_false_iff] at h
    by_cases first : a = mark
    · by_cases second : b = mark
      · have third : c ≠ mark := by simpa [first, second] using h.1
        simp only [first, second, List.cons_append, markRun_cons_self, markRun_cons_ne third]
        omega
      · rw [first, List.cons_append, markRun_cons_self, List.cons_append, markRun_cons_ne second]
        omega
    · rw [List.cons_append, markRun_cons_ne first]
      omega

/-- A literal string between three marks, with no three in a row, is read back. -/
theorem readLiteralLines_append {cs : List Char}
    (plain : ∀ c ∈ cs, c = '\n' ∨ isControl c = false) (triple : hasTriple '\'' cs = false)
    {rest : List Char} (ends : NoMark '\'' rest) :
    readLiteralLines (cs ++ closingMarks '\'' rest) = .ok (cs, rest) := by
  induction cs with
  | nil => exact readLiteralLines_close (closing?_replicate (n := 0) (by omega) ends)
  | cons c cs ih =>
    obtain ⟨n, few, all⟩ | short := hasTriple_cases triple (closingMarks '\'' rest)
    · rw [all]
      exact readLiteralLines_close (closing?_replicate few ends)
    · obtain ⟨here, later⟩ := List.forall_mem_cons.mp plain
      have opened := closing?_of_markRun
        (show markRun '\'' (c :: cs ++ closingMarks '\'' rest) < 3 by omega)
      have stands : (isControl c &&
          (newline? (c :: (cs ++ closingMarks '\'' rest))).isNone) = false := by
        obtain rfl | plain := here
        · rfl
        · rw [plain]
          rfl
      rw [List.cons_append] at opened ⊢
      rw [readLiteralLines, opened]
      simp only [stands, ih later (hasTriple_tail triple), Bool.false_eq_true, ↓reduceIte]

/-- What follows opening marks on the first line of a string, unless the string has more lines. -/
theorem dropFirstNewline_firstLine {cs written : List Char}
    (carriage : written.head? ≠ some '\r') (feed : '\n' ∉ cs → written.head? ≠ some '\n') :
    dropFirstNewline (firstLine cs ++ written) = written := by
  by_cases several : '\n' ∈ cs
  · simp [firstLine, several, dropFirstNewline, newline?]
  · have none : newline? written = none := by
      unfold newline?
      split
      · exact absurd rfl (feed several)
      · exact absurd rfl carriage
      · rfl
    simp [firstLine, several, dropFirstNewline, none]

theorem head_escapeLines (cs rest : List Char) :
    (escapeLines 0 cs ++ closingMarks '"' rest).head? ≠ some '\r' ∧
      ('\n' ∉ cs → (escapeLines 0 cs ++ closingMarks '"' rest).head? ≠ some '\n') := by
  cases cs with
  | nil => exact ⟨by simp [escapeLines, closingMarks], by simp [escapeLines, closingMarks]⟩
  | cons c cs =>
    rw [escapeLines]
    by_cases quote : c = '"'
    · simp [quote]
    by_cases feed : c = '\n'
    · simp [feed]
    rw [if_neg quote, if_neg feed]
    obtain ⟨same, -, carriage, -⟩ | ⟨e, escaped, -⟩ := escapeChar_cases feed
    · simp [same, carriage, feed]
    · simp [escaped]

/-- What stands between double quotes does not start with one. -/
theorem markRun_escapeBasic (cs : List Char) {rest : List Char} (ends : NoMark '"' rest) :
    markRun '"' (escapeBasic cs ++ '"' :: rest) ≤ 1 := by
  cases cs with
  | nil =>
    have none := markRun_of_noMark ends
    rw [escapeBasic, List.nil_append, markRun_cons_self]
    omega
  | cons c cs =>
    rw [escapeBasic]
    by_cases quote : c = '"'
    · rw [if_pos quote, List.cons_append, List.cons_append, markRun_cons_ne (by decide)]
      omega
    by_cases feed : c = '\n'
    · rw [if_neg quote, if_pos feed, List.cons_append, List.cons_append,
        markRun_cons_ne (by decide)]
      omega
    rw [if_neg quote, if_neg feed]
    obtain ⟨same, -⟩ | ⟨e, escaped, -⟩ := escapeChar_cases feed
    · rw [same, List.append_assoc, List.singleton_append, markRun_cons_ne quote]
      omega
    · rw [escaped, List.cons_append, List.cons_append, markRun_cons_ne (by decide)]
      omega

theorem readString?_basic (cs : List Char) {rest : List Char} (ends : NoMark '"' rest) :
    readString? (Form.basic.write cs ++ rest) = some (.ok (cs, rest)) := by
  have written : Form.basic.write cs ++ rest = '"' :: (escapeBasic cs ++ '"' :: rest) := by
    simp [Form.write]
  have few := markRun_escapeBasic cs ends
  have single : startsTriple '"' ('"' :: (escapeBasic cs ++ '"' :: rest)) = false := by
    rw [startsTriple, markRun_cons_self, decide_eq_false_iff_not]
    omega
  have other : startsTriple '\'' ('"' :: (escapeBasic cs ++ '"' :: rest)) = false := by
    rw [startsTriple, markRun_cons_ne (by decide)]
    rfl
  rw [written, readString?, single, other]
  simp only [Bool.false_eq_true, ↓reduceIte, readLine?, readBasic_escapeBasic]

theorem readString?_literal {cs : List Char} (plain : ∀ c ∈ cs, isControl c = false)
    (mark : '\'' ∉ cs) {rest : List Char} (ends : NoMark '\'' rest) :
    readString? (Form.literal.write cs ++ rest) = some (.ok (cs, rest)) := by
  have written : Form.literal.write cs ++ rest = '\'' :: (cs ++ '\'' :: rest) := by
    simp [Form.write]
  have few : markRun '\'' (cs ++ '\'' :: rest) ≤ 1 := by
    cases cs with
    | nil =>
      have none := markRun_of_noMark ends
      rw [List.nil_append, markRun_cons_self]
      omega
    | cons c cs =>
      have first : c ≠ '\'' := fun same => mark (by simp [same])
      rw [List.cons_append, markRun_cons_ne first]
      omega
  have single : startsTriple '\'' ('\'' :: (cs ++ '\'' :: rest)) = false := by
    rw [startsTriple, markRun_cons_self, decide_eq_false_iff_not]
    omega
  have other : startsTriple '"' ('\'' :: (cs ++ '\'' :: rest)) = false := by
    rw [startsTriple, markRun_cons_ne (by decide)]
    rfl
  rw [written, readString?, other, single]
  simp only [Bool.false_eq_true, ↓reduceIte, readLine?, readLiteral_append plain mark]

theorem startsTriple_closingMarks (mark : Char) (rest : List Char) :
    startsTriple mark (closingMarks mark rest) = true := by
  simp [startsTriple, closingMarks, markRun_cons_self]

theorem readString?_basicLines (cs : List Char) {rest : List Char} (ends : NoMark '"' rest) :
    readString? (Form.basicLines.write cs ++ rest) = some (.ok (cs, rest)) := by
  have written : Form.basicLines.write cs ++ rest =
      closingMarks '"' (firstLine cs ++ (escapeLines 0 cs ++ closingMarks '"' rest)) := by
    simp [Form.write, closingMarks]
  obtain ⟨carriage, feed⟩ := head_escapeLines cs rest
  rw [written, readString?, startsTriple_closingMarks, if_pos rfl]
  simp only [closingMarks, List.drop_succ_cons, List.drop_zero]
  rw [← closingMarks, dropFirstNewline_firstLine carriage feed,
    readBasicLines_escapeLines (by omega) cs ends]

theorem readString?_literalLines {cs : List Char}
    (plain : ∀ c ∈ cs, c = '\n' ∨ isControl c = false) (triple : hasTriple '\'' cs = false)
    {rest : List Char} (ends : NoMark '\'' rest) :
    readString? (Form.literalLines.write cs ++ rest) = some (.ok (cs, rest)) := by
  have written : Form.literalLines.write cs ++ rest =
      closingMarks '\'' (firstLine cs ++ (cs ++ closingMarks '\'' rest)) := by
    simp [Form.write, closingMarks]
  have carriage : (cs ++ closingMarks '\'' rest).head? ≠ some '\r' := by
    cases cs with
    | nil => simp [closingMarks]
    | cons c cs =>
      intro head
      obtain rfl : c = '\r' := by simpa using head
      obtain feed | control := plain '\r' (by simp)
      · cases feed
      · cases control
  have feed : '\n' ∉ cs → (cs ++ closingMarks '\'' rest).head? ≠ some '\n' := by
    cases cs with
    | nil => simp [closingMarks]
    | cons c cs =>
      intro single head
      obtain rfl : c = '\n' := by simpa using head
      exact single List.mem_cons_self
  have other (rest' : List Char) : startsTriple '"' (closingMarks '\'' rest') = false := by
    rw [startsTriple, closingMarks, markRun_cons_ne (by decide)]
    rfl
  rw [written, readString?, other, startsTriple_closingMarks, if_neg (by decide), if_pos rfl]
  simp only [closingMarks, List.drop_succ_cons, List.drop_zero]
  rw [← closingMarks, dropFirstNewline_firstLine carriage feed,
    readLiteralLines_append plain triple ends]

/-- A literal string on one line has nothing to escape, no single quote and no line feed. -/
theorem of_formOf_literal {cs : List Char} (h : formOf cs = .literal) :
    (∀ c ∈ cs, needsEscape c = false) ∧ '\'' ∉ cs ∧ '\n' ∉ cs := by
  simp only [formOf] at h
  grind

/-- A literal string on several lines has nothing to escape and no three single quotes in a row. -/
theorem of_formOf_literalLines {cs : List Char} (h : formOf cs = .literalLines) :
    (∀ c ∈ cs, needsEscape c = false) ∧ hasTriple '\'' cs = false := by
  simp only [formOf] at h
  grind

/-- What a string is written as is read as that string, up to what follows, if that is no quotation
mark. -/
theorem readString?_write (cs : List Char) {rest : List Char} (quote : NoMark '"' rest)
    (mark : NoMark '\'' rest) :
    readString? ((formOf cs).write cs ++ rest) = some (.ok (cs, rest)) := by
  cases form : formOf cs with
  | basic => exact readString?_basic cs quote
  | literal =>
    obtain ⟨plain, inside, single⟩ := of_formOf_literal form
    have controls : ∀ c ∈ cs, isControl c = false := by
      intro c hc
      have feed : c ≠ '\n' := fun same => single (same ▸ hc)
      rw [isControl_eq_needsEscape feed, plain c hc]
    exact readString?_literal controls inside mark
  | basicLines => exact readString?_basicLines cs quote
  | literalLines =>
    obtain ⟨plain, triple⟩ := of_formOf_literalLines form
    have controls : ∀ c ∈ cs, c = '\n' ∨ isControl c = false := by
      intro c hc
      by_cases feed : c = '\n'
      · exact .inl feed
      · exact .inr (by rw [isControl_eq_needsEscape feed, plain c hc])
    exact readString?_literalLines controls triple mark

end ContextualQuery.Toml
