import ContextualQuery.Query.Basic

/-!
# Lowercase text stays lowercase

The case tables map nothing onto a character that has a lowercase form of its own, and no foreign
letter onto a letter of a keyword. Two facts follow:

* `lowercase_lowercase`: lowercasing twice is lowercasing once;
* `ofKeyword?_lowercase`: a word spells an operator, ASCII case apart, exactly when its lowercase
  form does.
-/
namespace ContextualQuery.Text

/-- The pairs of a code point and its lowercase form that a run gives. -/
def CaseRun.pairs (run : CaseRun) : List (Nat × Nat) :=
  ((List.range (run.last + 1 - run.first)).filter (· % run.step == 0)).map fun i =>
    (run.first + i, run.target + i)

/-- Whether `other` gives no lowercase form to one that `run` gives. -/
def CaseRun.apart (run other : CaseRun) : Bool :=
  Nat.blt other.last run.target || Nat.blt (run.target + (run.last - run.first)) other.first ||
    run.pairs.all fun p => (other.lower? p.2).isNone

def keywordLetters : List Char := ['a', 'n', 'd', 'o', 'r', 't', 'p', 'x']

/-- Whether a pair gives a character, none of the two with rules of their own, and a letter of a
keyword only for its capital. -/
def isPlainPair (p : Nat × Nat) : Bool :=
  (Nat.blt p.2 0xd800 || Nat.blt 0xdfff p.2 && Nat.blt p.2 0x110000) &&
    p.2 != 0x130 && p.2 != 0x3a3 &&
    (Nat.blt 127 p.2 || !(keywordLetters.map Char.toNat).contains p.2 || p.1 + 32 == p.2)

theorem caseRuns_apart : (caseRuns.all fun run => caseRuns.all run.apart) = true := by
  decide +kernel

theorem caseRuns_plain : (caseRuns.all fun run => run.pairs.all isPlainPair) = true := by
  decide +kernel

theorem CaseRun.mem_pairs {run : CaseRun} {n m : Nat} (h : run.lower? n = some m) :
    (n, m) ∈ run.pairs := by
  unfold CaseRun.lower? at h
  split at h
  · rename_i within
    simp only [Option.some.injEq] at h
    refine List.mem_map.mpr ⟨n - run.first, ?_, ?_⟩
    · simp only [List.mem_filter, List.mem_range, beq_iff_eq]
      exact ⟨by omega, within.2.2⟩
    · simp only [Prod.mk.injEq]
      exact ⟨by omega, h⟩
  · cases h

theorem CaseRun.apart_lower? {run other : CaseRun} (h : run.apart other = true) {n m : Nat}
    (hm : run.lower? n = some m) : other.lower? m = none := by
  have hp := mem_pairs hm
  unfold CaseRun.lower? at hm ⊢
  split at hm
  · rename_i within
    simp only [Option.some.injEq] at hm
    simp only [apart, Bool.or_eq_true, Nat.blt_eq, List.all_eq_true] at h
    obtain (above | below) | each := h
    · exact if_neg (by omega)
    · exact if_neg (by omega)
    · simpa [CaseRun.lower?] using each _ hp
  · cases hm

/-- A lowercase form comes from one of the runs. -/
theorem lowerIn_eq_some {runs : List CaseRun} {n m : Nat} (h : lowerIn runs n = some m) :
    ∃ run ∈ runs, run.lower? n = some m := by
  induction runs with
  | nil => cases h
  | cons run rest ih =>
    simp only [lowerIn] at h
    split at h
    · exact ⟨run, by simp, h⟩
    · obtain ⟨r, hr, hm⟩ := ih h
      exact ⟨r, List.mem_cons_of_mem _ hr, hm⟩

theorem lowerIn_target {n m : Nat} (h : lowerIn caseRuns n = some m) :
    lowerIn caseRuns m = none ∧ isPlainPair (n, m) = true := by
  obtain ⟨run, hrun, hm⟩ := lowerIn_eq_some h
  constructor
  · cases again : lowerIn caseRuns m with
    | none => rfl
    | some k =>
      obtain ⟨other, hother, hk⟩ := lowerIn_eq_some again
      have apart := List.all_eq_true.mp (List.all_eq_true.mp caseRuns_apart run hrun) other hother
      rw [CaseRun.apart_lower? apart hm] at hk
      cases hk
  · exact List.all_eq_true.mp (List.all_eq_true.mp caseRuns_plain run hrun) _
      (CaseRun.mem_pairs hm)

theorem toNat_ofNat_of_plain {n m : Nat} (h : isPlainPair (n, m) = true) :
    (Char.ofNat m).toNat = m := by
  have valid : m.isValidChar := by
    simp only [isPlainPair, Bool.and_eq_true, Bool.or_eq_true, Nat.blt_eq] at h
    simp only [Nat.isValidChar]
    omega
  rw [Char.ofNat, dif_pos valid]
  rfl

/-- A character that lowercasing leaves alone, wherever it stands. -/
def IsSettled (c : Char) : Prop := c ≠ 'Σ' ∧ lowerChar c = [c]

theorem settled_of_mem_lowerChar {c d : Char} (h : d ∈ lowerChar c) (hc : c ≠ 'Σ') :
    IsSettled d := by
  unfold lowerChar at h
  split at h
  · simp only [List.mem_cons, List.not_mem_nil, or_false] at h
    obtain rfl | rfl := h <;> exact ⟨by decide, by decide⟩
  · rename_i notDotted
    split at h
    · rename_i m hm
      obtain ⟨last, plain⟩ := lowerIn_target hm
      have code := toNat_ofNat_of_plain plain
      obtain rfl := List.mem_singleton.mp h
      simp only [isPlainPair, Bool.and_eq_true, bne_iff_ne] at plain
      have notDotted' : Char.ofNat m ≠ 'İ' := by
        intro same
        exact plain.1.1.2 (by rw [← code, same]; rfl)
      have notSigma : Char.ofNat m ≠ 'Σ' := by
        intro same
        exact plain.1.2 (by rw [← code, same]; rfl)
      refine ⟨notSigma, ?_⟩
      simp [lowerChar, notDotted', code, last]
    · rename_i none
      obtain rfl := List.mem_singleton.mp h
      exact ⟨hc, by simp [lowerChar, notDotted, none]⟩

theorem settled_of_mem_lowerAfter {before cs : List Char} {d : Char}
    (h : d ∈ lowerAfter before cs) : IsSettled d := by
  induction cs generalizing before with
  | nil => simp [lowerAfter] at h
  | cons c after ih =>
    simp only [lowerAfter, List.mem_append] at h
    obtain here | later := h
    · split at here
      · obtain rfl := List.mem_singleton.mp here
        unfold lowerSigma
        split <;> exact ⟨by decide, by decide⟩
      · rename_i notSigma
        exact settled_of_mem_lowerChar here notSigma
    · exact ih later

theorem lowerAfter_of_settled {before cs : List Char} (h : ∀ c ∈ cs, IsSettled c) :
    lowerAfter before cs = cs := by
  induction cs generalizing before with
  | nil => rfl
  | cons c after ih =>
    obtain ⟨notSigma, same⟩ := h c (by simp)
    rw [lowerAfter, if_neg notSigma, same, ih fun d hd => h d (List.mem_cons_of_mem _ hd)]
    rfl

theorem lowercase_lowercase (s : String) : lowercase (lowercase s) = lowercase s := by
  simp only [lowercase, String.toList_ofList]
  rw [lowerAfter_of_settled fun _ hd => settled_of_mem_lowerAfter hd]

theorem asciiLowerChar_of_lowerIn_none {c : Char} (h : lowerIn caseRuns c.toNat = none) :
    asciiLowerChar c = c := by
  unfold asciiLowerChar
  split
  · rename_i capital
    have low : 65 ≤ c.toNat := capital.1
    have high : c.toNat ≤ 90 := capital.2
    simp [caseRuns, lowerIn, CaseRun.lower?, low, high, Nat.mod_one] at h
  · rfl

/-- A letter of a keyword is the lowercase form of itself and of its capital only. -/
theorem asciiLowerChar_eq_iff_of_lowerIn {c k : Char} {m : Nat} (hk : k ∈ keywordLetters)
    (hm : lowerIn caseRuns c.toNat = some m) : Char.ofNat m = k ↔ asciiLowerChar c = k := by
  obtain ⟨last, plain⟩ := lowerIn_target hm
  have code := toNat_ofNat_of_plain plain
  have small : ∀ k ∈ keywordLetters, 97 ≤ k.toNat ∧ k.toNat ≤ 122 ∧
      Char.ofNat (k.toNat - 32 + 32) = k ∧ lowerIn caseRuns k.toNat = none := by
    simp only [keywordLetters, List.forall_mem_cons, List.not_mem_nil, false_implies, implies_true]
    decide
  obtain ⟨klow, khigh, kback, knone⟩ := small k hk
  constructor
  · rintro rfl
    simp only [isPlainPair, Bool.and_eq_true, Bool.or_eq_true, Nat.blt_eq, Bool.not_eq_true',
      List.contains_eq_mem, decide_eq_false_iff_not, beq_iff_eq] at plain
    have among : m ∈ keywordLetters.map Char.toNat := List.mem_map.mpr ⟨_, hk, code⟩
    have shift : c.toNat + 32 = m := by
      obtain (big | foreign) | shift := plain.2
      · omega
      · exact absurd among foreign
      · exact shift
    have capital : 'A' ≤ c ∧ c ≤ 'Z' := by
      constructor
      · show 65 ≤ c.toNat
        omega
      · show c.toNat ≤ 90
        omega
    rw [asciiLowerChar, if_pos capital, shift]
  · intro h
    unfold asciiLowerChar at h
    split at h
    · rename_i capital
      have low : 65 ≤ c.toNat := capital.1
      have high : c.toNat ≤ 90 := capital.2
      have value : lowerIn caseRuns c.toNat = some (97 + (c.toNat - 65)) := by
        simp [caseRuns, lowerIn, CaseRun.lower?, low, high, Nat.mod_one]
      rw [value, Option.some.injEq] at hm
      rw [← hm, ← h]
      congr 1
      omega
    · rw [h, knone] at hm
      cases hm

/-- The lowercase form of a character starts with a letter of a keyword only if it is that letter,
and the character the letter or its capital. -/
theorem lowered_append_eq_cons_iff {before after rest ks : List Char} {c k : Char}
    (hk : k ∈ keywordLetters) :
    (if c = 'Σ' then [lowerSigma before after] else lowerChar c).map asciiLowerChar ++ rest =
        k :: ks ↔ asciiLowerChar c = k ∧ rest = ks := by
  have foreign : ∀ d ∈ ['ς', 'σ', 'Σ', 'i', 'İ'], asciiLowerChar d ∉ keywordLetters := by
    simp only [List.forall_mem_cons, List.not_mem_nil, false_implies, implies_true]
    decide
  by_cases sigma : c = 'Σ'
  · subst sigma
    have small : asciiLowerChar (lowerSigma before after) ≠ k := by
      rintro rfl
      unfold lowerSigma at hk
      split at hk <;> exact foreign _ (by simp) hk
    have capital : asciiLowerChar 'Σ' ≠ k := by
      rintro rfl
      exact foreign _ (by simp) hk
    simp [small, capital]
  · rw [if_neg sigma]
    unfold lowerChar
    split
    · rename_i dotted
      subst dotted
      have small : asciiLowerChar 'i' ≠ k := by
        rintro rfl
        exact foreign _ (by simp) hk
      have capital : asciiLowerChar 'İ' ≠ k := by
        rintro rfl
        exact foreign _ (by simp) hk
      simp [small, capital]
    · split
      · rename_i m hm
        obtain ⟨last, plain⟩ := lowerIn_target hm
        have same : asciiLowerChar (Char.ofNat m) = Char.ofNat m :=
          asciiLowerChar_of_lowerIn_none (by rw [toNat_ofNat_of_plain plain]; exact last)
        simp [same, asciiLowerChar_eq_iff_of_lowerIn hk hm]
      · simp

theorem lowerAfter_spells_iff {before cs ks : List Char} (hk : ∀ k ∈ ks, k ∈ keywordLetters) :
    (lowerAfter before cs).map asciiLowerChar = ks ↔ cs.map asciiLowerChar = ks := by
  induction cs generalizing before ks with
  | nil => rfl
  | cons c after ih =>
    rw [lowerAfter, List.map_append, List.map_cons]
    cases ks with
    | nil =>
      have : lowerChar c ≠ [] := by
        unfold lowerChar
        split
        · simp
        · split <;> simp
      split <;> simp [this]
    | cons k ks =>
      rw [lowered_append_eq_cons_iff (hk k (by simp)), List.cons.injEq,
        ih fun d hd => hk d (List.mem_cons_of_mem _ hd)]

end ContextualQuery.Text

namespace ContextualQuery.BooleanOp

theorem keyword_letters (op : BooleanOp) : ∀ k ∈ op.keyword.toList, k ∈ Text.keywordLetters := by
  have known : (op.keyword.toList.all Text.keywordLetters.contains) = true := by
    cases op <;> decide
  simpa using known

/-- A word spells an operator, ASCII case apart, exactly when its lowercase form does. -/
theorem ofKeyword?_lowercase (word : String) :
    ofKeyword? (Text.lowercase word) = ofKeyword? word := by
  have spells (op : BooleanOp) :
      (Text.asciiLowercase (Text.lowercase word) == op.keyword) =
        (Text.asciiLowercase word == op.keyword) := by
    apply Bool.eq_iff_iff.mpr
    simp only [Text.asciiLowercase, Text.lowercase, String.toList_ofList, beq_iff_eq,
      ← String.toList_inj]
    exact Text.lowerAfter_spells_iff op.keyword_letters
  simp only [ofKeyword?, spells]

end ContextualQuery.BooleanOp
