import ContextualQuery.FileTree
import Mathlib.Data.List.Infix

namespace ContextualQuery.Path

def IsAbsolute (path : String) : Prop := path.toList.head? = some '/'

/-- The parts of a text between slashes that count. -/
def names (cs : List Char) : List String :=
  ((Text.pieces '/' cs).map String.ofList).filter fun part => part != "" && part != "."

theorem pieces_ne_nil (mark : Char) (cs : List Char) : Text.pieces mark cs ≠ [] := by
  cases cs with
  | nil => simp [Text.pieces]
  | cons c cs =>
    rw [Text.pieces]
    split
    · simp
    · split <;> simp

theorem pieces_append (mark : Char) (cs ds : List Char) :
    Text.pieces mark (cs ++ mark :: ds) = Text.pieces mark cs ++ Text.pieces mark ds := by
  induction cs with
  | nil => simp [Text.pieces]
  | cons c cs ih =>
    rw [List.cons_append, Text.pieces, Text.pieces, ih]
    by_cases hc : c = mark
    · rw [if_pos hc, if_pos hc, List.cons_append]
    · obtain ⟨piece, rest, front⟩ := List.exists_cons_of_ne_nil (pieces_ne_nil mark cs)
      rw [if_neg hc, if_neg hc, front]
      rfl

theorem pieces_of_not_mem {mark : Char} {cs : List Char} (h : mark ∉ cs) :
    Text.pieces mark cs = [cs] := by
  induction cs with
  | nil => rfl
  | cons c cs ih =>
    obtain ⟨hc, hcs⟩ := not_or.mp (mt List.mem_cons.mpr h)
    rw [Text.pieces, if_neg (Ne.symm hc), ih hcs]

theorem names_append (cs ds : List Char) : names (cs ++ '/' :: ds) = names cs ++ names ds := by
  rw [names, pieces_append, List.map_append, List.filter_append]
  rfl

theorem names_nil : names [] = [] := by decide

theorem names_dot : names ['.'] = [] := by decide

theorem names_append_slash (cs : List Char) : names (cs ++ ['/']) = names cs := by
  rw [names_append, names_nil, List.append_nil]

/-- A text without a slash is one part, unless it is empty or a single dot. -/
theorem names_of_not_mem {cs : List Char} (h : '/' ∉ cs) (empty : cs ≠ []) (dot : cs ≠ ['.']) :
    names cs = [String.ofList cs] := by
  have empty' : String.ofList cs ≠ "" := by simpa [← String.toList_inj] using empty
  have dot' : String.ofList cs ≠ "." := by simpa [← String.toList_inj] using dot
  simp [names, pieces_of_not_mem h, empty', dot']

theorem parts_eq_names {path : String} (absolute : IsAbsolute path) :
    parts path = "/" :: names path.toList := by
  obtain ⟨cs, chars⟩ := List.head?_eq_some_iff.mp absolute
  obtain ⟨piece, rest, back⟩ := List.exists_cons_of_ne_nil (pieces_ne_nil '/' cs)
  have front : Text.pieces '/' ('/' :: cs) = [] :: Text.pieces '/' cs := by simp [Text.pieces]
  simp [parts, names, chars, front, back]

/-- What is dropped at the end of a path, given backwards, are no parts of it. -/
theorem names_dropIdle (r : List Char) : names (dropIdle r).reverse = names r.reverse := by
  fun_induction dropIdle r with
  | case1 c cs ih => rw [ih, List.reverse_cons (a := '/'), names_append_slash]
  | case2 cs ih =>
    rw [ih, List.reverse_cons, List.reverse_cons, List.reverse_cons, names_append_slash,
      List.append_assoc, List.singleton_append, names_append, names_dot, List.append_nil]
  | case3 => rfl

theorem getLast?_dropIdle (r : List Char) : (dropIdle r).getLast? = r.getLast? := by
  fun_induction dropIdle r with
  | case1 c cs ih => rw [ih, List.getLast?_cons_cons]
  | case2 cs ih => rw [ih, List.getLast?_cons_cons]
  | case3 => rfl

/-- After dropping, a slash comes first only if it is the root. -/
theorem eq_nil_of_dropIdle {r rest : List Char} (h : dropIdle r = '/' :: rest) : rest = [] := by
  fun_induction dropIdle r with
  | case1 c cs ih => exact ih h
  | case2 cs ih => exact ih h
  | case3 cs slash dot =>
    cases rest with
    | nil => rfl
    | cons c cs' => exact (slash c cs' h).elim

/-- After dropping, no single dot is left as the last part. -/
theorem dropIdle_ne_dot {r rest : List Char} : dropIdle r ≠ '.' :: '/' :: rest := by
  fun_induction dropIdle r with
  | case1 c cs ih => exact ih
  | case2 cs ih => exact ih
  | case3 cs slash dot => exact dot rest

/-- A path from the root, given backwards after dropping, is the root or a last part with a slash
before it. -/
theorem dropIdle_cases {r : List Char} (absolute : r.getLast? = some '/') :
    dropIdle r = ['/'] ∨
      ∃ word above, '/' ∉ word ∧ word ≠ [] ∧ word ≠ ['.'] ∧ dropIdle r = word ++ '/' :: above := by
  have last : (dropIdle r).getLast? = some '/' := by rw [getLast?_dropIdle, absolute]
  obtain ⟨word, above, free, whole⟩ : ∃ word above, '/' ∉ word ∧
      dropIdle r = word ++ '/' :: above :=
    List.eq_append_cons_of_mem (List.mem_of_getLast? last) |>.imp fun word => by
      rintro ⟨above, whole, free⟩
      exact ⟨above, free, whole⟩
  by_cases empty : word = []
  · subst empty
    obtain rfl := eq_nil_of_dropIdle whole
    exact .inl whole
  · refine .inr ⟨word, above, free, empty, ?_, whole⟩
    rintro rfl
    exact dropIdle_ne_dot whole

/-- The root has no parent, and every other path from the root one with a part less. -/
theorem parentChars?_cases {cs : List Char} (absolute : cs.head? = some '/') :
    (parentChars? cs = none ∧ names cs = []) ∨
      ∃ dir name, parentChars? cs = some dir ∧ dir.head? = some '/' ∧
        names cs = names dir ++ [name] := by
  rw [← List.getLast?_reverse] at absolute
  have kept := names_dropIdle cs.reverse
  rw [List.reverse_reverse] at kept
  rw [← kept, parentChars?]
  obtain root | ⟨word, above, free, empty, dot, whole⟩ := dropIdle_cases absolute
  · rw [root]
    exact .inl ⟨rfl, by decide⟩
  · right
    have last : ('/' :: above).getLast? = some '/' := by
      rw [← absolute, ← getLast?_dropIdle cs.reverse, whole, List.getLast?_append_cons]
    have name : names word.reverse = [String.ofList word.reverse] :=
      names_of_not_mem (by simpa using free) (by simpa using empty) (by simpa using dot)
    obtain ⟨c, rest, rfl⟩ := List.exists_cons_of_ne_nil empty
    have first : c ≠ '/' := fun same => free (by simp [same])
    have above_word : (rest ++ '/' :: above).dropWhile (· != '/') = '/' :: above := by
      rw [List.dropWhile_append_of_pos, List.dropWhile_cons_of_neg (by simp)]
      intro d hd
      have : d ≠ '/' := by
        rintro rfl
        exact free (List.mem_cons_of_mem _ hd)
      simpa using this
    refine ⟨(dropIdle ('/' :: above)).reverse, String.ofList (c :: rest).reverse, ?_, ?_, ?_⟩
    · rw [whole, List.cons_append]
      simp [first, above_word]
    · rw [List.head?_reverse, getLast?_dropIdle, last]
    · rw [whole, List.reverse_append, List.reverse_cons (a := '/'), List.append_assoc,
        List.singleton_append, names_append, name, names_dropIdle, List.reverse_cons (a := '/'),
        names_append_slash]

/-- The root has no parent; the parent of any other path from the root starts there as well and has
all its parts but the last. -/
theorem parts_parent {path : String} (absolute : IsAbsolute path) :
    (parent? path = none ∧ parts path = ["/"]) ∨
      ∃ dir name, parent? path = some dir ∧ IsAbsolute dir ∧ parts path = parts dir ++ [name] := by
  rw [parent?]
  obtain ⟨parent, none⟩ | ⟨dir, name, parent, head, names⟩ := parentChars?_cases absolute
  · exact .inl ⟨by rw [parent]; rfl, by rw [parts_eq_names absolute, none]⟩
  · have absolute' : IsAbsolute (String.ofList dir) := by simpa [IsAbsolute] using head
    refine .inr ⟨String.ofList dir, name, by rw [parent]; rfl, absolute', ?_⟩
    rw [parts_eq_names absolute, parts_eq_names absolute', names, String.toList_ofList]
    rfl

/-- The beginnings of a list that are not empty, the longest first. -/
def beginnings (parts : List String) : List (List String) := parts.inits.tail.reverse

theorem beginnings_append_singleton (parts : List String) (part : String) :
    beginnings (parts ++ [part]) = (parts ++ [part]) :: beginnings parts := by
  obtain ⟨first, rest, inits⟩ := List.exists_cons_of_length_pos (l := parts.inits) (by simp)
  simp [beginnings, List.inits_append, inits]

/-- A path from the root has for ancestors the root and all directories on the way to it. -/
theorem parts_ancestors {path : String} (absolute : IsAbsolute path) :
    (ancestors path).map parts = beginnings (parts path) ∧
      ∀ dir ∈ ancestors path, IsAbsolute dir := by
  fun_induction ancestors path with
  | case1 path parent =>
    obtain ⟨-, root⟩ | ⟨dir, name, parent', -⟩ := parts_parent absolute
    · simp [root, beginnings, absolute]
    · cases parent.symm.trans parent'
  | case2 path dir parent ih =>
    obtain ⟨parent', -⟩ | ⟨dir', name, parent', absolute', parts⟩ := parts_parent absolute
    · cases parent.symm.trans parent'
    · cases parent.symm.trans parent'
      obtain ⟨above, all⟩ := ih absolute'
      rw [List.map_cons, above, parts, beginnings_append_singleton, ← parts]
      exact ⟨rfl, List.forall_mem_cons.mpr ⟨absolute, all⟩⟩

/-- A name inside a directory is one part more. -/
theorem parts_join {dir name : String} (absolute : IsAbsolute dir)
    (named : names name.toList = [name]) : parts (join dir name) = parts dir ++ [name] := by
  have joined : IsAbsolute (join dir name) ∧
      names (join dir name).toList = names dir.toList ++ [name] := by
    have head : dir.toList.head? = some '/' := absolute
    have nonempty : dir.toList ≠ [] := by
      intro empty
      simp [empty] at head
    rw [join, if_neg (by simpa using nonempty)]
    split
    · rename_i last
      obtain ⟨front, chars⟩ := List.getLast?_eq_some_iff.mp last
      refine ⟨?_, ?_⟩
      · simp [IsAbsolute, String.toList_append, List.head?_append, head]
      · rw [String.toList_append, chars, List.append_assoc, List.singleton_append, names_append,
          named, names_append_slash]
    · refine ⟨?_, ?_⟩
      · simp [IsAbsolute, String.toList_append, List.head?_append, head]
      · have slash : "/".toList = ['/'] := rfl
        rw [String.toList_append, String.toList_append, slash, List.append_assoc,
          List.singleton_append, names_append, named]
  rw [parts_eq_names joined.1, parts_eq_names absolute, joined.2]
  rfl

theorem same_comm (path other : String) : same path other = same other path := BEq.comm

/-- Of the beginnings of a list, no two are as long. -/
theorem beginnings_pairwise (parts : List String) :
    (beginnings parts).Pairwise fun a b => b.length < a.length := by
  induction parts using List.reverseRecOn with
  | nil => simp [beginnings]
  | append_singleton parts part ih =>
    rw [beginnings_append_singleton, List.pairwise_cons]
    refine ⟨?_, ih⟩
    intro b hb
    have mem : b ∈ parts.inits := List.mem_of_mem_tail (List.mem_reverse.mp hb)
    have short := ((List.mem_inits _ _).mp mem).length_le
    simp only [List.length_append, List.length_singleton]
    omega

end ContextualQuery.Path
