namespace ContextualQuery.Except

variable {ε α β γ : Type}

@[simp]
theorem isOk_ok (a : α) : (.ok a : Except ε α).isOk = true := rfl

@[simp]
theorem isOk_error (e : ε) : (.error e : Except ε α).isOk = false := rfl

@[simp]
theorem toOption_ok (a : α) : (.ok a : Except ε α).toOption = some a := rfl

@[simp]
theorem toOption_error (e : ε) : (.error e : Except ε α).toOption = none := rfl

theorem bind_eq_ok_iff {x : Except ε α} {f : α → Except ε β} {b : β} :
    x.bind f = .ok b ↔ ∃ a, x = .ok a ∧ f a = .ok b := by
  cases x with
  | error e => simp [Except.bind]
  | ok a => simp [Except.bind]

/-- Going through a list succeeds if each step does, with what the steps give. -/
theorem mapM_eq_ok_iff {f : α → Except ε β} {xs : List α} {ys : List β} :
    xs.mapM f = .ok ys ↔ xs.map f = ys.map .ok := by
  induction xs generalizing ys with
  | nil =>
    rw [List.mapM_nil, List.map_nil, List.nil_eq, List.map_eq_nil_iff]
    exact ⟨fun h => (Except.ok.inj h).symm, fun h => h ▸ rfl⟩
  | cons x xs ih =>
    rw [List.mapM_cons, List.map_cons]
    constructor
    · intro h
      obtain ⟨y, first, h⟩ := bind_eq_ok_iff.mp h
      obtain ⟨rest, others, h⟩ := bind_eq_ok_iff.mp h
      obtain rfl := Except.ok.inj h
      rw [List.map_cons, first, ih.mp others]
    · intro h
      obtain ⟨y, rest, rfl, first, others⟩ := List.map_eq_cons_iff.mp h.symm
      exact bind_eq_ok_iff.mpr ⟨y, first.symm, bind_eq_ok_iff.mpr ⟨rest, ih.mpr others.symm, rfl⟩⟩

theorem mapM_eq_ok {f : α → Except ε β} {g : α → β} {xs : List α}
    (h : ∀ x ∈ xs, f x = .ok (g x)) : xs.mapM f = .ok (xs.map g) := by
  rw [mapM_eq_ok_iff, List.map_map]
  exact List.map_congr_left h

theorem mem_of_mapM_eq_ok {f : α → Except ε β} {xs : List α} {ys : List β}
    (h : xs.mapM f = .ok ys) : ∀ y ∈ ys, ∃ x ∈ xs, f x = .ok y := by
  intro y hy
  apply List.mem_map.mp
  rw [mapM_eq_ok_iff.mp h]
  exact List.mem_map_of_mem hy

theorem exists_mapM_iff {f : α → Except ε β} {xs : List α} :
    (∃ ys, xs.mapM f = .ok ys) ↔ ∀ x ∈ xs, ∃ y, f x = .ok y := by
  simp only [mapM_eq_ok_iff]
  induction xs with
  | nil => simp
  | cons x xs ih =>
    rw [List.forall_mem_cons, ← ih]
    constructor
    · rintro ⟨ys, h⟩
      obtain ⟨y, rest, -, first, others⟩ := List.map_eq_cons_iff.mp h.symm
      exact ⟨⟨y, first.symm⟩, rest, others.symm⟩
    · rintro ⟨⟨y, first⟩, rest, others⟩
      exact ⟨y :: rest, by rw [List.map_cons, List.map_cons, first, others]⟩

/-- What each step keeps in view, going through a list keeps. -/
theorem map_eq_of_mapM {f : α → Except ε β} {before : α → γ} {after : β → γ}
    (kept : ∀ x y, f x = .ok y → after y = before x) {xs : List α} {ys : List β}
    (h : xs.mapM f = .ok ys) : ys.map after = xs.map before := by
  rw [mapM_eq_ok_iff] at h
  induction xs generalizing ys with
  | nil =>
    obtain rfl := List.map_eq_nil_iff.mp h.symm
    rfl
  | cons x xs ih =>
    obtain ⟨y, rest, rfl, first, others⟩ := List.map_eq_cons_iff.mp h.symm
    rw [List.map_cons, List.map_cons, kept x y first.symm, ih others.symm]

def error? : Except ε α → Option ε
  | .ok _ => none
  | .error e => some e

theorem error?_eq_some_iff {x : Except ε α} {e : ε} : error? x = some e ↔ x = .error e := by
  cases x with
  | error e' => simp [error?]
  | ok a => simp [error?]

theorem error?_eq_none_iff {x : Except ε α} : error? x = none ↔ ∃ a, x = .ok a := by
  cases x with
  | error e => simp [error?]
  | ok a => simp [error?]

/-- If the error of the second step does not depend on what the first gives, it comes up where the
first has none. -/
theorem error?_bind {x : Except ε α} {f : α → Except ε β} {fault fault' : Option ε}
    (first : error? x = fault) (second : ∀ a, error? (f a) = fault') :
    error? (x.bind f) = fault.or fault' := by
  subst first
  cases x with
  | error e => rfl
  | ok a => exact second a

theorem error?_map {x : Except ε α} {f : α → β} {fault : Option ε} (h : error? x = fault) :
    error? (x.bind fun a => .ok (f a)) = fault := by
  subst h
  cases x with
  | error e => rfl
  | ok a => rfl

theorem error?_foldlM {step : α → β → Except ε α} {fault : β → Option ε}
    (h : ∀ a b, error? (step a b) = fault b) (bs : List β) (a : α) :
    error? (bs.foldlM step a) = bs.findSome? fault := by
  induction bs generalizing a with
  | nil => rfl
  | cons b bs ih =>
    rw [List.foldlM_cons, List.findSome?_cons, ← h a b]
    cases step a b with
    | error e => rfl
    | ok next => exact ih next

theorem error?_mapM (f : α → Except ε β) (as : List α) :
    error? (as.mapM f) = as.findSome? fun a => error? (f a) := by
  induction as with
  | nil => rfl
  | cons a as ih =>
    rw [List.mapM_cons, List.findSome?_cons, ← ih]
    cases f a with
    | error e => rfl
    | ok b =>
      cases as.mapM f with
      | error e => rfl
      | ok bs => rfl

end ContextualQuery.Except
