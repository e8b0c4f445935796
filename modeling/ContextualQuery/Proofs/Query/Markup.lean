import ContextualQuery.Query.Xcql
import Mathlib.Data.List.Chain

/-!
# Tags in a text

What a text is to a reader that knows no more of XML than its tags, and what the lines of XCQL are
to it.

* `marks?`: the tags of a text, each with the text before it;
* `nested`: each closing tag closes the tag that was opened last;
* `leafTexts`: the texts between an opening tag and a closing tag right after it;
* `Elements`: lines that make up elements, in each of which something stands;
* `marks?_textOf`, `Elements.nested_append`, `leafTextsAfter_marksOf`: what the reader sees in such
  lines;
* `Elements.eq_of_textOf`: the text tells the lines.
-/
namespace ContextualQuery.Xcql

structure Tag where
  closing : Bool
  name : List Char
deriving DecidableEq

/-- A tag and the text before it. -/
structure Mark where
  before : List Char
  tag : Tag
deriving DecidableEq

/-- The tag that stands between `<` and `>`. -/
def Tag.ofChars : List Char → Tag
  | '/' :: name => ⟨true, name⟩
  | name => ⟨false, name⟩

/-- Where a reader is: in the text before a tag, or in a tag. -/
inductive Place where
  | text (before : List Char)
  | tag (before name : List Char)

/-- The tags that come from a place on. There are none to see if a tag is not ended. -/
def marksFrom : Place → List Char → Option (List Mark)
  | .text _, [] => some []
  | .tag _ _, [] => none
  | .text before, c :: cs =>
    if c = '<' then marksFrom (.tag before []) cs else marksFrom (.text (before ++ [c])) cs
  | .tag before name, c :: cs =>
    if c = '>' then (marksFrom (.text []) cs).map (⟨before, .ofChars name⟩ :: ·)
    else marksFrom (.tag before (name ++ [c])) cs

def marks? (cs : List Char) : Option (List Mark) := marksFrom (.text []) cs

/-- Whether each closing tag closes the last of those that are open, and all are closed at the
end. -/
def nested : List (List Char) → List Tag → Bool
  | [], [] => true
  | _ :: _, [] => false
  | opened, ⟨false, name⟩ :: tags => nested (name :: opened) tags
  | [], ⟨true, _⟩ :: _ => false
  | name :: opened, ⟨true, name'⟩ :: tags => name == name' && nested opened tags

/-- The texts that stand between an opening tag and the closing tag right after it, if the tag
before was an opening one or not. -/
def leafTextsAfter : Bool → List Mark → List (List Char)
  | _, [] => []
  | opened, m :: ms =>
    if opened && m.tag.closing then m.before :: leafTextsAfter false ms
    else leafTextsAfter (!m.tag.closing) ms

/-- The texts of the elements that hold no others. -/
def leafTexts (ms : List Mark) : List (List Char) := leafTextsAfter false ms

theorem marksFrom_text (before : List Char) {cs : List Char} (plain : ∀ c ∈ cs, c ≠ '<')
    (rest : List Char) :
    marksFrom (.text before) (cs ++ rest) = marksFrom (.text (before ++ cs)) rest := by
  induction cs generalizing before with
  | nil => simp
  | cons c cs ih =>
    rw [List.cons_append, marksFrom, if_neg (plain c List.mem_cons_self),
      ih _ fun d hd => plain d (List.mem_cons_of_mem _ hd)]
    simp

theorem marksFrom_tag (before name : List Char) {cs : List Char} (plain : ∀ c ∈ cs, c ≠ '>')
    (rest : List Char) :
    marksFrom (.tag before name) (cs ++ '>' :: rest) =
      (marks? rest).map (⟨before, .ofChars (name ++ cs)⟩ :: ·) := by
  induction cs generalizing name with
  | nil => simp [marksFrom, marks?]
  | cons c cs ih =>
    rw [List.cons_append, marksFrom, if_neg (plain c List.mem_cons_self),
      ih _ fun d hd => plain d (List.mem_cons_of_mem _ hd)]
    simp

/-- A text before a tag, the tag, and what comes after it. -/
theorem marks?_tag {before name : List Char} (outside : ∀ c ∈ before, c ≠ '<')
    (inside : ∀ c ∈ name, c ≠ '>') (after : List Char) :
    marks? (before ++ '<' :: (name ++ '>' :: after)) =
      (marks? after).map (⟨before, .ofChars name⟩ :: ·) := by
  rw [marks?, marksFrom_text [] outside, List.nil_append, marksFrom, if_pos rfl]
  simpa using marksFrom_tag before [] inside after

/-- The text starts with a reference to a character. -/
def StartsReference (cs : List Char) : Prop :=
  "&amp;".toList <+: cs ∨ "&lt;".toList <+: cs ∨ "&gt;".toList <+: cs

/-- Text in which no bracket stands, and `&` only where a reference starts. -/
structure Escaped (cs : List Char) : Prop where
  noLess : '<' ∉ cs
  noGreater : '>' ∉ cs
  references : ∀ front back, cs = front ++ '&' :: back → StartsReference ('&' :: back)

theorem escaped_nil : Escaped [] where
  noLess := List.not_mem_nil
  noGreater := List.not_mem_nil
  references := by simp

theorem Escaped.cons {c : Char} {cs : List Char} (less : c ≠ '<') (greater : c ≠ '>')
    (reference : c = '&' → StartsReference (c :: cs)) (h : Escaped cs) : Escaped (c :: cs) where
  noLess := by simpa [Ne.symm less] using h.noLess
  noGreater := by simpa [Ne.symm greater] using h.noGreater
  references := by
    intro front back split
    cases front with
    | nil =>
      obtain ⟨rfl, rfl⟩ := List.cons.inj split
      exact reference rfl
    | cons d front => exact h.references front back (List.cons.inj split).2

theorem Escaped.plain {c : Char} {cs : List Char} (plain : c ≠ '<' ∧ c ≠ '>' ∧ c ≠ '&')
    (h : Escaped cs) : Escaped (c :: cs) :=
  h.cons plain.1 plain.2.1 fun same => absurd same plain.2.2

theorem Escaped.escapeChar (c : Char) {cs : List Char} (h : Escaped cs) :
    Escaped (escapeChar c ++ cs) := by
  have letters (name : List Char) (plain : ∀ d ∈ name, d ≠ '<' ∧ d ≠ '>' ∧ d ≠ '&') :
      Escaped (name ++ cs) := by
    induction name with
    | nil => exact h
    | cons d name ih =>
      exact (ih fun e he => plain e (List.mem_cons_of_mem _ he)).plain
        (plain d List.mem_cons_self)
  unfold Xcql.escapeChar
  split
  · refine (letters ['a', 'm', 'p', ';'] (by simp)).cons (by decide) (by decide) fun _ => ?_
    exact .inl ⟨cs, rfl⟩
  · refine (letters ['l', 't', ';'] (by simp)).cons (by decide) (by decide) fun _ => ?_
    exact .inr (.inl ⟨cs, rfl⟩)
  · refine (letters ['g', 't', ';'] (by simp)).cons (by decide) (by decide) fun _ => ?_
    exact .inr (.inr ⟨cs, rfl⟩)
  · rename_i amp less greater
    exact h.plain ⟨less, greater, amp⟩

theorem escaped_escape (text : String) : Escaped (escape text).toList := by
  rw [escape, String.toList_ofList]
  induction text.toList with
  | nil => exact escaped_nil
  | cons c cs ih => exact ih.escapeChar c

theorem escapeChar_ne_nil (c : Char) : escapeChar c ≠ [] := by
  unfold escapeChar
  split <;> simp

/-- No character is written as the start of another. -/
theorem escapeChar_append_inj {c d : Char} {cs ds : List Char}
    (h : escapeChar c ++ cs = escapeChar d ++ ds) : c = d ∧ cs = ds := by
  unfold escapeChar at h
  split at h <;> split at h <;> simp_all
  all_goals exact absurd h.1.symm (by assumption)

theorem escape_inj {s t : String} (h : escape s = escape t) : s = t := by
  have chars : ∀ cs ds : List Char, cs.flatMap escapeChar = ds.flatMap escapeChar → cs = ds := by
    intro cs
    induction cs with
    | nil =>
      intro ds same
      cases ds with
      | nil => rfl
      | cons d ds => simp [escapeChar_ne_nil] at same
    | cons c cs ih =>
      intro ds same
      cases ds with
      | nil => simp [escapeChar_ne_nil] at same
      | cons d ds =>
        rw [List.flatMap_cons, List.flatMap_cons] at same
        obtain ⟨rfl, rest⟩ := escapeChar_append_inj same
        rw [ih ds rest]
  exact String.toList_inj.mp (chars _ _ (String.ofList_injective h))

def IsName (tag : String) : Prop := tag.toList.all Char.isAlpha = true

instance (tag : String) : Decidable (IsName tag) :=
  inferInstanceAs (Decidable (tag.toList.all Char.isAlpha = true))

/-- The tag of a line, or of its first tag. -/
def Markup.name : Markup → String
  | .openTag tag | .closeTag tag | .leaf tag _ => tag

/-- The tags on a line, with the text before them if `before` stands before the line. -/
def Line.marks (indent : Char) (before : List Char) (line : Line) : List Mark :=
  let margin := before ++ List.replicate line.level indent
  match line.markup with
  | .openTag tag => [⟨margin, ⟨false, tag.toList⟩⟩]
  | .closeTag tag => [⟨margin, ⟨true, tag.toList⟩⟩]
  | .leaf tag text =>
    [⟨margin, ⟨false, tag.toList⟩⟩, ⟨(escape text).toList, ⟨true, tag.toList⟩⟩]

/-- The tags on lines, if `before` stands before the first of them. -/
def marksOf (indent : Char) : List Char → List Line → List Mark
  | _, [] => []
  | before, line :: lines => line.marks indent before ++ marksOf indent ['\n'] lines

theorem IsName.ne {tag : String} (named : IsName tag) {c : Char} (mark : c.isAlpha = false) :
    ∀ d ∈ tag.toList, d ≠ c := by
  rintro d hd rfl
  rw [List.all_eq_true.mp named d hd] at mark
  cases mark

theorem Tag.ofChars_open {tag : String} (named : IsName tag) :
    Tag.ofChars tag.toList = ⟨false, tag.toList⟩ := by
  have slash := named.ne (c := '/') rfl
  unfold Tag.ofChars
  split
  · rename_i name chars
    exact absurd rfl (slash '/' (by simp [chars]))
  · rfl

theorem marks?_open {tag : String} (named : IsName tag) {before : List Char}
    (plain : ∀ c ∈ before, c ≠ '<') (after : List Char) :
    marks? (before ++ '<' :: (tag.toList ++ '>' :: after)) =
      (marks? after).map (⟨before, ⟨false, tag.toList⟩⟩ :: ·) := by
  rw [marks?_tag plain (named.ne rfl), Tag.ofChars_open named]

theorem marks?_close {tag : String} (named : IsName tag) {before : List Char}
    (plain : ∀ c ∈ before, c ≠ '<') (after : List Char) :
    marks? (before ++ '<' :: '/' :: (tag.toList ++ '>' :: after)) =
      (marks? after).map (⟨before, ⟨true, tag.toList⟩⟩ :: ·) := by
  have inside : ∀ c ∈ '/' :: tag.toList, c ≠ '>' := by
    intro c hc
    obtain rfl | hc := List.mem_cons.mp hc
    · decide
    · exact named.ne rfl c hc
  exact marks?_tag plain inside after

/-- One line shows its tags, whatever comes after it. -/
theorem marks?_line {indent : Char} (margin : indent ≠ '<') {line : Line}
    (named : IsName line.markup.name) {before : List Char} (plain : ∀ c ∈ before, c ≠ '<')
    (after : List Char) :
    marks? (before ++ ((line.text indent).toList ++ after)) =
      (marks? ('\n' :: after)).map (line.marks indent before ++ ·) := by
  obtain ⟨level, markup⟩ := line
  have blank : ∀ c ∈ before ++ List.replicate level indent, c ≠ '<' := by
    intro c hc
    obtain hc | hc := List.mem_append.mp hc
    · exact plain c hc
    · rw [List.eq_of_mem_replicate hc]
      exact margin
  cases markup with
  | openTag tag =>
    replace named : IsName tag := named
    have opening := marks?_open named blank ('\n' :: after)
    simpa [Line.text, Markup.text, Line.marks] using opening
  | closeTag tag =>
    replace named : IsName tag := named
    have closing := marks?_close named blank ('\n' :: after)
    simpa [Line.text, Markup.text, Line.marks] using closing
  | leaf tag text =>
    replace named : IsName tag := named
    have content : ∀ c ∈ (escape text).toList, c ≠ '<' := by
      rintro c hc rfl
      exact (escaped_escape text).noLess hc
    have opening := marks?_open named blank
      ((escape text).toList ++ '<' :: '/' :: (tag.toList ++ '>' :: '\n' :: after))
    rw [marks?_close named content] at opening
    simpa [Line.text, Markup.text, Line.marks, Function.comp_def] using opening

/-- Lines show all their tags, and nothing else on them looks like one. -/
theorem marks?_textOf {indent : Char} (margin : indent ≠ '<') {lines : List Line}
    (named : ∀ line ∈ lines, IsName line.markup.name) (before : List Char)
    (plain : ∀ c ∈ before, c ≠ '<') :
    marks? (before ++ (textOf indent lines).toList) = some (marksOf indent before lines) := by
  induction lines generalizing before with
  | nil => simpa [textOf, marks?, marksFrom, marksOf] using marksFrom_text [] plain []
  | cons line lines ih =>
    have text : (textOf indent (line :: lines)).toList =
        (line.text indent).toList ++ (textOf indent lines).toList := by
      simp [textOf]
    have rest := ih (fun l hl => named l (List.mem_cons_of_mem _ hl)) ['\n'] (by simp)
    rw [List.singleton_append] at rest
    rw [text, marks?_line margin (named line List.mem_cons_self) plain, rest]
    rfl

/-- The tags on a line. -/
def Line.tags (line : Line) : List Tag :=
  match line.markup with
  | .openTag tag => [⟨false, tag.toList⟩]
  | .closeTag tag => [⟨true, tag.toList⟩]
  | .leaf tag _ => [⟨false, tag.toList⟩, ⟨true, tag.toList⟩]

def Line.opens (line : Line) : Bool := line.markup matches .openTag _

def Line.closes (line : Line) : Bool := line.markup matches .closeTag _

/-- The text that stands on a line, if one may. -/
def Line.content? (line : Line) : Option String :=
  match line.markup with
  | .leaf _ text => some text
  | _ => none

/-- Lines of elements, in each of which there is text or another element. -/
inductive Elements : List Line → Prop
  | nil : Elements []
  | leaf (level : Nat) (tag text : String) {after : List Line} (named : IsName tag)
      (rest : Elements after) : Elements (⟨level, .leaf tag text⟩ :: after)
  | element (level : Nat) (tag : String) {body after : List Line} (named : IsName tag)
      (filled : body ≠ []) (inside : Elements body) (rest : Elements after) :
      Elements (element level tag body ++ after)

/-- No line closes what the line before it opens. -/
def Filled (lines : List Line) : Prop :=
  lines.IsChain fun line next => line.opens = true → next.closes = false

namespace Elements

theorem append {front back : List Line} (h : Elements front) (h' : Elements back) :
    Elements (front ++ back) := by
  induction h with
  | nil => exact h'
  | leaf level tag text named _ ih => exact leaf level tag text named ih
  | element level tag named filled inside _ _ ih =>
    rw [List.append_assoc]
    exact element level tag named filled inside ih

theorem single (level : Nat) (tag : String) {body : List Line} (named : IsName tag)
    (filled : body ≠ []) (inside : Elements body) : Elements (Xcql.element level tag body) := by
  have alone := element level tag named filled inside .nil
  rwa [List.append_nil] at alone

theorem isName {lines : List Line} (h : Elements lines) :
    ∀ line ∈ lines, IsName line.markup.name := by
  induction h with
  | nil => simp
  | leaf level tag text named _ ih => simpa using ⟨named, ih⟩
  | element level tag named _ _ _ ihBody ih =>
    intro line hline
    simp only [Xcql.element, List.cons_append, List.append_assoc, List.mem_cons, List.mem_append,
      List.nil_append] at hline
    obtain rfl | hline | rfl | hline := hline
    · exact named
    · exact ihBody line hline
    · exact named
    · exact ih line hline

/-- Tags that stand around elements are nested as they would be without them. -/
theorem nested_append {lines : List Line} (h : Elements lines) (opened : List (List Char))
    (tags : List Tag) :
    nested opened (lines.flatMap Line.tags ++ tags) = nested opened tags := by
  induction h generalizing opened tags with
  | nil => rfl
  | leaf level tag text named _ ih =>
    simp [Line.tags, nested, ih]
  | @element level tag body after named _ _ _ ihBody ih =>
    have inside := ihBody (tag.toList :: opened)
      (⟨true, tag.toList⟩ :: (after.flatMap Line.tags ++ tags))
    simp [Xcql.element, Line.tags, nested, inside, ih]

theorem closes_head {lines : List Line} (h : Elements lines) :
    ∀ line ∈ lines.head?, line.closes = false := by
  cases h with
  | nil => simp
  | leaf => simp [Line.closes]
  | element => simp [Xcql.element, Line.closes]

theorem opens_getLast {lines : List Line} (h : Elements lines) :
    ∀ line ∈ lines.getLast?, line.opens = false := by
  induction h with
  | nil => simp
  | @leaf level tag text after _ _ ih =>
    cases after with
    | nil => simp [Line.opens]
    | cons line after => simpa using ih
  | @element level tag body after _ _ _ _ _ ih =>
    intro line hline
    rw [List.getLast?_append] at hline
    cases last : after.getLast? with
    | none =>
      have closing : some (⟨level, .closeTag tag⟩ : Line) = some line := by
        simpa [last, Xcql.element, List.getLast?_cons] using hline
      obtain rfl := Option.some.inj closing
      rfl
    | some final =>
      rw [last, Option.some_or] at hline
      exact ih line (last.trans hline)

theorem filled {lines : List Line} (h : Elements lines) : Filled lines := by
  unfold Filled
  induction h with
  | nil => exact .nil
  | leaf level tag text named _ ih =>
    refine List.isChain_cons.mpr ⟨?_, ih⟩
    simp [Line.opens]
  | @element level tag body after named filled inside rest ihBody ih =>
    have closed : List.IsChain (fun line next : Line => line.opens = true → next.closes = false)
        (body ++ [⟨level, .closeTag tag⟩]) := by
      refine List.isChain_append.mpr ⟨ihBody, .singleton _, ?_⟩
      intro line hline _ _ hopens
      rw [inside.opens_getLast line hline] at hopens
      cases hopens
    refine List.isChain_append.mpr ⟨List.isChain_cons.mpr ⟨?_, closed⟩, ih, ?_⟩
    · intro line hline _
      obtain ⟨first, body, rfl⟩ := List.exists_cons_of_ne_nil filled
      exact inside.closes_head line hline
    · intro line _ next hnext _
      exact rest.closes_head next hnext

end Elements

/-- The reader's tags are those of the lines. -/
theorem tags_marksOf (indent : Char) (before : List Char) (lines : List Line) :
    (marksOf indent before lines).map Mark.tag = lines.flatMap Line.tags := by
  induction lines generalizing before with
  | nil => rfl
  | cons line lines ih =>
    obtain ⟨level, markup⟩ := line
    rw [marksOf, List.map_append, ih, List.flatMap_cons]
    cases markup <;> rfl

/-- The texts that the reader finds in leaves are those that the lines hold. -/
theorem leafTextsAfter_marksOf (indent : Char) {lines : List Line} (filled : Filled lines)
    (before : List Char) (opened : Bool)
    (start : opened = true → ∀ line ∈ lines.head?, line.closes = false) :
    leafTextsAfter opened (marksOf indent before lines) =
      (lines.filterMap Line.content?).map fun text => (escape text).toList := by
  induction lines generalizing before opened with
  | nil => rfl
  | cons line lines ih =>
    obtain ⟨next, rest⟩ := List.isChain_cons.mp filled
    obtain ⟨level, markup⟩ := line
    cases markup with
    | openTag tag =>
      have after := ih rest ['\n'] true fun _ line hline => next line hline rfl
      simpa [marksOf, Line.marks, leafTextsAfter, List.filterMap_cons, Line.content?] using after
    | closeTag tag =>
      obtain rfl : opened = false := by
        cases opened with
        | false => rfl
        | true => exact absurd (start rfl _ rfl) (by simp [Line.closes])
      have after := ih rest ['\n'] false nofun
      simpa [marksOf, Line.marks, leafTextsAfter, List.filterMap_cons, Line.content?] using after
    | leaf tag text =>
      have after := ih rest ['\n'] false nofun
      simpa [marksOf, Line.marks, leafTextsAfter, List.filterMap_cons, Line.content?] using after

theorem Line.marks_ne_nil (line : Line) (indent : Char) (before : List Char) :
    line.marks indent before ≠ [] := by
  obtain ⟨level, markup⟩ := line
  cases markup <;> simp [Line.marks]

/-- The line after one that opens an element shows no closing tag first. -/
theorem marksOf_ne_closing {indent : Char} {level : Nat} {tag : String} {lines : List Line}
    (filled : Filled (⟨level, .openTag tag⟩ :: lines)) (text name : List Char) (ms : List Mark) :
    marksOf indent ['\n'] lines ≠ ⟨text, ⟨true, name⟩⟩ :: ms := by
  cases lines with
  | nil => simp [marksOf]
  | cons line lines =>
    have next := (List.isChain_cons_cons.mp filled).1 rfl
    obtain ⟨level', markup⟩ := line
    cases markup with
    | closeTag tag => cases next
    | openTag tag => simp [marksOf, Line.marks]
    | leaf tag text => simp [marksOf, Line.marks]

/-- The first tag of a line tells the depth of the line. -/
theorem first_mark_inj {indent : Char} {level level' : Nat} {closing : Bool} {tag tag' : String}
    (same : (⟨['\n'] ++ List.replicate level indent, ⟨closing, tag.toList⟩⟩ : Mark) =
      ⟨['\n'] ++ List.replicate level' indent, ⟨closing, tag'.toList⟩⟩) :
    level = level' ∧ tag = tag' := by
  obtain ⟨margin, tags⟩ := Mark.mk.inj same
  refine ⟨?_, String.toList_inj.mp (Tag.mk.inj tags).2⟩
  exact List.replicate_left_injective indent (List.append_cancel_left margin)

/-- The first line is told from what comes after it. -/
theorem marksOf_cons_inj {indent : Char} {line line' : Line} {lines lines' : List Line}
    (filled : Filled (line :: lines)) (filled' : Filled (line' :: lines'))
    (same : marksOf indent ['\n'] (line :: lines) = marksOf indent ['\n'] (line' :: lines')) :
    line = line' ∧ marksOf indent ['\n'] lines = marksOf indent ['\n'] lines' := by
  obtain ⟨level, markup⟩ := line
  obtain ⟨level', markup'⟩ := line'
  cases markup with
  | openTag tag =>
    cases markup' with
    | openTag tag' =>
      obtain ⟨first, rest⟩ := List.cons.inj same
      obtain ⟨rfl, rfl⟩ := first_mark_inj first
      exact ⟨rfl, rest⟩
    | closeTag tag' => simp [marksOf, Line.marks] at same
    | leaf tag' text' => exact absurd (List.cons.inj same).2 (marksOf_ne_closing filled _ _ _)
  | closeTag tag =>
    cases markup' with
    | closeTag tag' =>
      obtain ⟨first, rest⟩ := List.cons.inj same
      obtain ⟨rfl, rfl⟩ := first_mark_inj first
      exact ⟨rfl, rest⟩
    | openTag tag' => simp [marksOf, Line.marks] at same
    | leaf tag' text' => simp [marksOf, Line.marks] at same
  | leaf tag text =>
    cases markup' with
    | openTag tag' =>
      exact absurd (List.cons.inj same).2.symm (marksOf_ne_closing filled' _ _ _)
    | closeTag tag' => simp [marksOf, Line.marks] at same
    | leaf tag' text' =>
      obtain ⟨first, others⟩ := List.cons.inj same
      obtain ⟨second, rest⟩ := List.cons.inj others
      obtain ⟨rfl, rfl⟩ := first_mark_inj first
      obtain rfl := escape_inj (String.toList_inj.mp (Mark.mk.inj second).1)
      exact ⟨rfl, rest⟩

/-- The tags and the texts between them tell the lines: where a tag is closed right after it is
opened, the two are on one line. -/
theorem eq_of_marksOf {indent : Char} {lines lines' : List Line} (filled : Filled lines)
    (filled' : Filled lines')
    (same : marksOf indent ['\n'] lines = marksOf indent ['\n'] lines') : lines = lines' := by
  induction lines generalizing lines' with
  | nil =>
    cases lines' with
    | nil => rfl
    | cons line' lines' => simp [marksOf, line'.marks_ne_nil] at same
  | cons line lines ih =>
    cases lines' with
    | nil => simp [marksOf, line.marks_ne_nil] at same
    | cons line' lines' =>
      obtain ⟨rfl, rest⟩ := marksOf_cons_inj filled filled' same
      rw [ih (List.isChain_cons.mp filled).2 (List.isChain_cons.mp filled').2 rest]

/-- The text of elements tells their lines. -/
theorem Elements.eq_of_textOf {indent : Char} (margin : indent ≠ '<') {lines lines' : List Line}
    (h : Elements lines) (h' : Elements lines')
    (same : textOf indent lines = textOf indent lines') : lines = lines' := by
  -- With a line end before them, the first lines are like all others.
  have seen := marks?_textOf margin h.isName ['\n'] (by simp)
  rw [same, marks?_textOf margin h'.isName ['\n'] (by simp)] at seen
  exact eq_of_marksOf h.filled h'.filled (Option.some.inj seen).symm

end ContextualQuery.Xcql
