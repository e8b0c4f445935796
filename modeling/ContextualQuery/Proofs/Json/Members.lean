import ContextualQuery.Json.Value
import Mathlib.Data.List.Basic
import Mathlib.Data.List.Nodup

/-!
# Keys of objects

Of a repeated key, an object keeps the first place and the last value. Where each key stands once,
only the order of the members is left to tell objects with the same members apart.

* `lastOfEach`: the elements of a list, of each name the last in the place of the first;
* `nodup_lastOfEach`, `lastOfEach_eq_self`: that leaves each name once, and no more is to be done;
* `assignAll_eq_lastOfEach`: so are the members of an object;
* `get?_assignAll`: looking up a key finds its last member;
* `filter_assignAll`: keys can be dropped before or after;
* `get?_filter`, `get?_perm`: looking up a key takes no notice of other keys, and none of the order;
* `eq_of_perm_of_map_eq`: what is in another order but has its names in order is in order.
-/
namespace ContextualQuery

section LastOfEach

variable {α β : Type} (name : α → String)

/-- The elements of a list, of those with one name the last in the place of the first. -/
def lastOfEach (xs : List α) : List α :=
  (xs.map name).eraseDups.filterMap fun n => (xs.filter (name · == n)).getLast?

@[simp]
theorem lastOfEach_nil : lastOfEach name [] = [] := rfl

theorem lastOfEach_cons (x : α) (xs : List α) :
    lastOfEach name (x :: xs) =
      (xs.filter (name · == name x)).getLast?.getD x ::
        lastOfEach name (xs.filter (name · != name x)) := by
  have first : ((x :: xs).filter (name · == name x)).getLast? =
      some ((xs.filter (name · == name x)).getLast?.getD x) := by
    rw [List.filter_cons_of_pos (by simp), List.getLast?_cons]
  have keys : (xs.map name).filter (fun n => !n == name x) =
      (xs.filter (name · != name x)).map name := by
    rw [List.filter_map]
    rfl
  rw [lastOfEach, List.map_cons, List.eraseDups_cons, List.filterMap_cons, first, keys, lastOfEach]
  refine congrArg (List.cons _) ?_
  apply List.filterMap_congr
  intro n hn
  obtain ⟨y, hy, rfl⟩ := List.mem_map.mp (List.mem_eraseDups.mp hn)
  have differs : name y ≠ name x := by simpa using (List.mem_filter.mp hy).2
  rw [List.filter_cons_of_neg (by simpa using Ne.symm differs), List.filter_filter]
  congr 1
  apply List.filter_congr
  intro z _
  by_cases same : name z = name y
  · simp [same, differs]
  · simp [same]

theorem lastOfEach_map (f : β → α) (xs : List β) :
    lastOfEach name (xs.map f) = (lastOfEach (fun x => name (f x)) xs).map f := by
  unfold lastOfEach
  rw [List.map_map, List.map_filterMap]
  congr 1
  funext n
  rw [List.filter_map, List.getLast?_map]
  rfl

theorem mem_of_mem_lastOfEach {xs : List α} {x : α} (h : x ∈ lastOfEach name xs) : x ∈ xs := by
  obtain ⟨n, -, last⟩ := List.mem_filterMap.mp h
  exact (List.mem_filter.mp (List.mem_of_getLast? last)).1

/-- Each name is left once. -/
theorem nodup_lastOfEach (xs : List α) : ((lastOfEach name xs).map name).Nodup := by
  cases xs with
  | nil => exact List.nodup_nil
  | cons x xs =>
    have shorter := List.length_filter_le (name · != name x) xs
    have rest := nodup_lastOfEach (xs.filter (name · != name x))
    have first : name ((xs.filter (name · == name x)).getLast?.getD x) = name x := by
      cases last : (xs.filter (name · == name x)).getLast? with
      | none => rfl
      | some y => simpa using (List.mem_filter.mp (List.mem_of_getLast? last)).2
    rw [lastOfEach_cons, List.map_cons, first, List.nodup_cons]
    refine ⟨?_, rest⟩
    intro listed
    obtain ⟨y, hy, same⟩ := List.mem_map.mp listed
    have differs := (List.mem_filter.mp (mem_of_mem_lastOfEach name hy)).2
    simp [same] at differs
termination_by xs.length
decreasing_by
  subst_vars
  simp only [List.length_cons]
  omega

theorem lastOfEach_eq_self {xs : List α} (distinct : (xs.map name).Nodup) :
    lastOfEach name xs = xs := by
  induction xs with
  | nil => rfl
  | cons x xs ih =>
    rw [List.map_cons, List.nodup_cons] at distinct
    have others : ∀ y ∈ xs, name y ≠ name x := fun y hy same =>
      distinct.1 (same ▸ List.mem_map_of_mem hy)
    have none : xs.filter (name · == name x) = [] := by
      rw [List.filter_eq_nil_iff]
      intro y hy
      simpa using others y hy
    have all : xs.filter (name · != name x) = xs := by
      rw [List.filter_eq_self]
      intro y hy
      simpa using others y hy
    rw [lastOfEach_cons, none, all, ih distinct.2]
    rfl

end LastOfEach

/-- Elements that have distinct names are in order if their names are. -/
theorem eq_of_perm_of_map_eq {α β : Type} {f : α → β} {xs ys : List α} (perm : xs.Perm ys)
    (distinct : (xs.map f).Nodup) (order : xs.map f = ys.map f) : xs = ys := by
  induction xs generalizing ys with
  | nil => exact perm.nil_eq
  | cons x xs ih =>
    obtain ⟨y, rest, rfl, first, others⟩ := List.map_eq_cons_iff.mp order.symm
    obtain rfl : y = x := List.inj_on_of_nodup_map distinct (perm.mem_iff.mpr (by simp))
      (by simp) first
    rw [List.map_cons, List.nodup_cons] at distinct
    rw [ih perm.cons_inv distinct.2 others.symm]

namespace Json

/-- Members that are assigned after `k` was bound change its value, or are bound after it. -/
theorem foldl_assign_cons (k : String) (v : Json) (bound ms : List (String × Json)) :
    ms.foldl (fun bound (k, v) => assign k v bound) ((k, v) :: bound) =
      (ms.filter (·.1 == k)).getLast?.getD (k, v) ::
        (ms.filter (·.1 != k)).foldl (fun bound (k, v) => assign k v bound) bound := by
  induction ms generalizing v bound with
  | nil => rfl
  | cons m ms ih =>
    obtain ⟨k', v'⟩ := m
    by_cases same : k = k'
    · subst same
      simp only [List.foldl_cons, assign, beq_self_eq_true, ↓reduceIte, ih]
      simp [List.getLast?_cons]
    · have differs : (k == k') = false := by simpa using same
      have differs' : (k' == k) = false := by simpa using Ne.symm same
      simp only [List.foldl_cons, assign, differs, Bool.false_eq_true, ↓reduceIte, ih]
      simp [differs', bne]

/-- The members of an object are, of each key, the last in the place of the first. -/
theorem assignAll_eq_lastOfEach (ms : List (String × Json)) :
    assignAll ms = lastOfEach (·.1) ms := by
  cases ms with
  | nil => rfl
  | cons m ms =>
    have shorter := List.length_filter_le (·.1 != m.1) ms
    have rest := assignAll_eq_lastOfEach (ms.filter (·.1 != m.1))
    rw [lastOfEach_cons, ← rest, assignAll, List.foldl_cons]
    exact foldl_assign_cons m.1 m.2 [] ms
termination_by ms.length
decreasing_by
  simp only [List.length_cons]
  omega

theorem get?_assign (k : String) (v : Json) (ms : List (String × Json)) (key : String) :
    get? (assign k v ms) key = if key = k then some v else get? ms key := by
  unfold get?
  induction ms with
  | nil => by_cases found : key = k <;> simp [assign, List.lookup_cons, found, beq_false_of_ne]
  | cons m ms ih =>
    obtain ⟨k', v'⟩ := m
    by_cases same : k' = k
    · subst same
      by_cases found : key = k' <;> simp [assign, List.lookup_cons, found, beq_false_of_ne]
    · have differs : (k' == k) = false := by simpa using same
      by_cases found : key = k'
      · simp [assign, differs, found, same]
      · simp [assign, differs, List.lookup_cons, beq_false_of_ne found, ih]

/-- Looking up a key finds the last of its members. -/
theorem get?_assignAll (ms : List (String × Json)) (key : String) :
    get? (assignAll ms) key = get? ms.reverse key := by
  have general (bound : List (String × Json)) :
      get? (ms.foldl (fun bound (k, v) => assign k v bound) bound) key =
        (get? ms.reverse key).or (get? bound key) := by
    induction ms generalizing bound with
    | nil => simp [get?]
    | cons m ms ih =>
      obtain ⟨k, v⟩ := m
      rw [List.foldl_cons, ih, get?_assign]
      by_cases found : key = k <;>
        simp [get?, List.lookup_append, List.lookup_cons, found, beq_false_of_ne]
  simpa [assignAll, get?] using general []

theorem get?_assignAll_append (ms ns : List (String × Json)) (key : String) :
    get? (assignAll (ms ++ ns)) key =
      (get? (assignAll ns) key).or (get? (assignAll ms) key) := by
  rw [get?_assignAll, get?_assignAll, get?_assignAll, List.reverse_append]
  exact List.lookup_append

theorem get?_assignAll_cons (k : String) (v : Json) (ms : List (String × Json)) (key : String) :
    get? (assignAll ((k, v) :: ms)) key =
      (get? (assignAll ms) key).or (if key = k then some v else none) := by
  rw [← List.singleton_append, get?_assignAll_append]
  by_cases found : key = k <;>
    simp [assignAll, assign, get?, List.lookup_cons, found, beq_false_of_ne]

theorem get?_assignAll_eq_none {ms : List (String × Json)} {key : String}
    (absent : ∀ m ∈ ms, m.1 ≠ key) : get? (assignAll ms) key = none := by
  rw [get?_assignAll, get?, List.lookup_eq_none_iff]
  intro m hm
  simpa using Ne.symm (absent m (List.mem_reverse.mp hm))

theorem filter_assign (keep : String → Bool) (k : String) (v : Json) (ms : List (String × Json)) :
    (assign k v ms).filter (keep ·.1) =
      if keep k then assign k v (ms.filter (keep ·.1)) else ms.filter (keep ·.1) := by
  induction ms with
  | nil => cases kept : keep k <;> simp [assign, kept]
  | cons m ms ih =>
    obtain ⟨k', v'⟩ := m
    by_cases same : k' = k
    · subst same
      cases kept : keep k' <;> simp [assign, kept]
    · have differs : (k' == k) = false := by simpa using same
      cases kept' : keep k' <;> cases kept : keep k <;>
        simp [assign, differs, kept', kept] at ih ⊢ <;> exact ih

/-- Keys can be dropped before or after repeated ones are. -/
theorem filter_assignAll (keep : String → Bool) (ms : List (String × Json)) :
    (assignAll ms).filter (keep ·.1) = assignAll (ms.filter (keep ·.1)) := by
  have general (bound : List (String × Json)) :
      (ms.foldl (fun bound (k, v) => assign k v bound) bound).filter (keep ·.1) =
        (ms.filter (keep ·.1)).foldl (fun bound (k, v) => assign k v bound)
          (bound.filter (keep ·.1)) := by
    induction ms generalizing bound with
    | nil => rfl
    | cons m ms ih =>
      rw [List.foldl_cons, ih, filter_assign]
      cases kept : keep m.1 <;> simp [kept]
  exact general []

/-- Looking up a key takes no notice of members whose keys are dropped. -/
theorem get?_filter (keep : String → Bool) (ms : List (String × Json)) {key : String}
    (kept : keep key = true) : get? (ms.filter (keep ·.1)) key = get? ms key := by
  unfold get?
  induction ms with
  | nil => rfl
  | cons m ms ih =>
    obtain ⟨k, v⟩ := m
    by_cases found : key = k
    · subst found
      simp [kept]
    · have other : (key == k) = false := beq_false_of_ne found
      cases stays : keep k <;> simp [stays, List.lookup_cons, other, ih]

/-- Where each key stands once, the order of the members does not matter. -/
theorem get?_perm {ms ns : List (String × Json)} (perm : ms.Perm ns)
    (distinct : (ms.map Prod.fst).Nodup) (key : String) : get? ms key = get? ns key := by
  unfold get?
  induction perm with
  | nil => rfl
  | cons m _ ih =>
    rw [List.map_cons, List.nodup_cons] at distinct
    rw [List.lookup_cons, List.lookup_cons, ih distinct.2]
  | swap m n ms =>
    obtain ⟨k, v⟩ := m
    obtain ⟨l, w⟩ := n
    have differ : l ≠ k := by
      rw [List.map_cons, List.map_cons, List.nodup_cons, List.mem_cons, not_or] at distinct
      exact distinct.1.1
    by_cases first : key = k
    · subst first
      simp [List.lookup_cons, beq_false_of_ne (Ne.symm differ)]
    · simp [List.lookup_cons, beq_false_of_ne first]
  | trans perm _ ih ih' =>
    rw [ih distinct, ih' ((perm.map Prod.fst).nodup_iff.mp distinct)]

end Json
end ContextualQuery
