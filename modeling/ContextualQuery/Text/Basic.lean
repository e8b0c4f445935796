/-!
# Characters and offsets

Classes of characters are lists of closed ranges of code points. The tables of this library are
short enough for a plain scan, which stops at the first range that ends at or after the character.

Offsets into a text count the bytes of its UTF-8 form. Here the characters carry the lengths, so
that an offset is a sum over the characters before it.
-/
namespace ContextualQuery.Text

/-- Closed ranges `(first, last)` of code points, ascending and disjoint. -/
abbrev CharTable := List (Nat × Nat)

def CharTable.holds : CharTable → Nat → Bool
  | [], _ => false
  | (first, last) :: table, n => if n ≤ last then first ≤ n else CharTable.holds table n

def CharTable.has (table : CharTable) (c : Char) : Bool := table.holds c.toNat

/-- The characters with the property White_Space. -/
def whiteSpaceTable : CharTable := [
  (0x9, 0xd), (0x20, 0x20), (0x85, 0x85), (0xa0, 0xa0), (0x1680, 0x1680), (0x2000, 0x200a),
  (0x2028, 0x2029), (0x202f, 0x202f), (0x205f, 0x205f), (0x3000, 0x3000)]

def isWhite (c : Char) : Bool := whiteSpaceTable.has c

def isBlankText (s : String) : Bool := s.toList.all isWhite

/-- A list without its longest tail of characters that satisfy `p`. -/
def dropEndWhile (p : Char → Bool) (cs : List Char) : List Char :=
  (cs.reverse.dropWhile p).reverse

def trimEnd (s : String) : String := String.ofList (dropEndWhile isWhite s.toList)

def trimNewlines (s : String) : String := String.ofList (dropEndWhile (· == '\n') s.toList)

/-- The pieces of a text between marks. -/
def pieces (mark : Char) : List Char → List (List Char)
  | [] => [[]]
  | c :: cs =>
    if c = mark then [] :: pieces mark cs
    else match pieces mark cs with
      | [] => [[c]]
      | piece :: rest => (c :: piece) :: rest

def byteSize : List Char → Nat
  | [] => 0
  | c :: cs => c.utf8Size + byteSize cs

/-- The number of characters that start before byte offset `n`. -/
def column : List Char → Nat → Nat
  | [], _ => 0
  | c :: cs, n => if n = 0 then 0 else column cs (n - c.utf8Size) + 1

@[simp]
theorem byteSize_append (cs ds : List Char) :
    byteSize (cs ++ ds) = byteSize cs + byteSize ds := by
  induction cs with
  | nil => simp [byteSize]
  | cons c cs ih => simp [byteSize, ih, Nat.add_assoc]

/-- The characters that start before the end of some text are the characters of that text. -/
theorem column_append (before after : List Char) :
    column (before ++ after) (byteSize before) = before.length := by
  induction before with
  | nil => cases after <;> simp [column, byteSize]
  | cons c cs ih =>
    have positive : byteSize (c :: cs) ≠ 0 := by
      have := c.utf8Size_pos
      simp only [byteSize]
      omega
    rw [List.cons_append, column, if_neg positive, byteSize, Nat.add_sub_cancel_left, ih,
      List.length_cons]

end ContextualQuery.Text
