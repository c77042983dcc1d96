namespace guarded

variable {α β ε : Type}

/-- `if condition: raise error`. -/
def raise_if (condition : Prop) [Decidable condition] (error : ε) : Except ε Unit :=
  if condition then .error error else .ok ()

/-- `if value is None: raise error`, and the value otherwise. -/
def get_or_raise (value : Option α) (error : ε) : Except ε α :=
  match value with
  | none => .error error
  | some found => .ok found

/-- The only row of a result, if there is one; a second row raises. -/
def scalar_one_or_none (multiple : ε) : List α → Except ε (Option α)
  | [] => .ok none
  | [row] => .ok (some row)
  | _ :: _ :: _ => .error multiple

@[simp] theorem pure_eq_ok {value : α} : (pure value : Except ε α) = .ok value := rfl

@[simp] theorem bind_ok {value : α} {f : α → Except ε β} :
    (Except.ok value >>= f) = f value := rfl

@[simp] theorem bind_error {error : ε} {f : α → Except ε β} :
    ((Except.error error : Except ε α) >>= f) = .error error := rfl

/-- A sequence returns when both parts do. -/
theorem bind_eq_ok_iff {x : Except ε α} {f : α → Except ε β} {y : β} :
    (x >>= f) = .ok y ↔ ∃ a, x = .ok a ∧ f a = .ok y := by
  cases x <;> simp

/-- A mapped computation returns what the computation does, mapped. -/
theorem map_eq_ok_iff {x : Except ε α} {f : α → β} {y : β} : x.map f = .ok y ↔ ∃ a, x = .ok a ∧ f a = y := by
  cases x <;> simp [Except.map]

/-- A mapped computation raises what the computation does. -/
theorem map_eq_error {x : Except ε α} {f : α → β} {e : ε} (h : x.map f = .error e) : x = .error e := by
  cases x with
  | error _ => cases h; rfl
  | ok _ => cases h

/-- Renaming errors changes nothing that returns. -/
theorem mapError_eq_ok {ε' : Type} {x : Except ε α} {f : ε → ε'} {a : α} : x.mapError f = .ok a ↔ x = .ok a := by
  cases x with
  | error e => exact iff_of_false nofun nofun
  | ok b =>
    constructor
    · rintro ⟨⟩
      rfl
    · rintro ⟨⟩
      rfl

/-- A computation whose result is only renamed is a mapped one. -/
theorem bind_pure_eq_map {x : Except ε α} {f : α → β} : (x >>= fun a => pure (f a)) = x.map f := by
  cases x <;> rfl

/-- Mapping a sequence maps its second part. -/
theorem map_bind {γ : Type} {x : Except ε α} {f : α → Except ε β} {g : β → γ} :
    (x >>= f).map g = x >>= fun a => (f a).map g := by
  cases x <;> rfl

/-- A sequence raises what its first part raises, or else its second one. -/
theorem bind_eq_error_iff {x : Except ε α} {f : α → Except ε β} {e : ε} :
    (x >>= f) = .error e ↔ x = .error e ∨ ∃ a, x = .ok a ∧ f a = .error e := by
  cases x <;> simp

section raise_if

variable {condition : Prop} [Decidable condition] {error e : ε} {u : Unit}

/-- The guard is passed when the condition does not hold. -/
@[simp] theorem raise_if_eq_ok : raise_if condition error = .ok u ↔ ¬ condition := by
  by_cases h : condition <;> simp [raise_if, h]

/-- The guard raises its error, when the condition holds. -/
@[simp] theorem raise_if_eq_error :
    raise_if condition error = .error e ↔ condition ∧ error = e := by
  by_cases h : condition <;> simp [raise_if, h]

end raise_if

/-- What is returned is the value that is there. -/
@[simp] theorem get_or_raise_eq_ok {value : Option α} {error : ε} {a : α} :
    get_or_raise value error = .ok a ↔ value = some a := by
  cases value <;> simp [get_or_raise]

/-- The error is raised when there is no value. -/
@[simp] theorem get_or_raise_eq_error {value : Option α} {error e : ε} :
    get_or_raise value error = .error e ↔ value = none ∧ error = e := by
  cases value <;> simp [get_or_raise]

@[simp] theorem get_or_raise_some {a : α} {error : ε} :
    get_or_raise (some a) error = .ok a := rfl

/-- A result of at most one row is read back without raising. -/
theorem scalar_one_or_none_of_length_le {multiple : ε} {rows : List α}
    (hlength : rows.length ≤ 1) : scalar_one_or_none multiple rows = .ok rows.head? := by
  match rows, hlength with
  | [], _ => rfl
  | [_], _ => rfl

/-- At most one row is read, the first one if any. -/
theorem scalar_one_or_none_eq_ok_iff {multiple : ε} {rows : List α} {value : Option α} :
    scalar_one_or_none multiple rows = .ok value ↔ rows.length ≤ 1 ∧ value = rows.head? := by
  match rows with
  | [] => simp [scalar_one_or_none, eq_comm]
  | [row] => simp [scalar_one_or_none, eq_comm]
  | _ :: _ :: _ => simp [scalar_one_or_none]

/-- Several rows are refused. -/
theorem scalar_one_or_none_eq_error_iff {multiple e : ε} {rows : List α} :
    scalar_one_or_none multiple rows = .error e ↔ 1 < rows.length ∧ e = multiple := by
  match rows with
  | [] => simp [scalar_one_or_none]
  | [row] => simp [scalar_one_or_none]
  | _ :: _ :: _ => simp [scalar_one_or_none, eq_comm]

/-- The items of a list are computed when each of them is. -/
theorem mapM_eq_ok_iff {f : α → Except ε β} {items : List α} {done : List β} :
    items.mapM f = .ok done ↔ items.map (fun a => (f a).toOption) = done.map some := by
  induction items generalizing done with
  | nil =>
    rw [List.mapM_nil, pure_eq_ok, Except.ok.injEq, List.map_nil]
    cases done <;> simp
  | cons a rest ih =>
    rw [List.mapM_cons, bind_eq_ok_iff, List.map_cons]
    constructor
    · rintro ⟨b, hb, hrest⟩
      obtain ⟨bs, hbs, hdone⟩ := bind_eq_ok_iff.mp hrest
      cases hdone
      rw [ih.mp hbs, hb]
      rfl
    · intro h
      cases done with
      | nil => cases h
      | cons b bs =>
        obtain ⟨hb, hbs⟩ := List.cons.inj h
        cases ha : f a with
        | error e =>
          rw [ha] at hb
          cases hb
        | ok b' =>
          rw [ha] at hb
          cases hb
          exact ⟨b, rfl, by rw [ih.mpr hbs]; rfl⟩

/-- A loop that collects results returns when each of its items gives one. -/
theorem exists_mapM_iff {f : α → Except ε β} {items : List α} :
    (∃ done, items.mapM f = .ok done) ↔ ∀ a ∈ items, ∃ b, f a = .ok b := by
  induction items with
  | nil => simp
  | cons a rest ih =>
    simp only [List.mapM_cons, bind_eq_ok_iff, pure_eq_ok, Except.ok.injEq, List.mem_cons, forall_eq_or_imp, ← ih]
    constructor
    · rintro ⟨_, b, hb, bs, hbs, rfl⟩
      exact ⟨⟨b, hb⟩, bs, hbs⟩
    · rintro ⟨⟨b, hb⟩, bs, hbs⟩
      exact ⟨b :: bs, b, hb, bs, hbs, rfl⟩

/-- Every error the computation raises satisfies `p`. -/
def raises_only (x : Except ε α) (p : ε → Prop) : Prop := ∀ e, x = .error e → p e

section raises_only

variable {p : ε → Prop}

theorem raises_only_ok {a : α} : raises_only (.ok a) p := by
  intro e h
  cases h

theorem raises_only_pure {a : α} : raises_only (pure a) p := raises_only_ok

theorem raises_only_error {e : ε} (h : p e) : raises_only (.error e : Except ε α) p := by
  intro e' he
  cases he
  exact h

/-- What a sequence raises comes from one of its parts. -/
theorem raises_only_bind {x : Except ε α} {f : α → Except ε β} (hx : raises_only x p)
    (hf : ∀ a, x = .ok a → raises_only (f a) p) : raises_only (x >>= f) p := by
  intro e he
  rcases bind_eq_error_iff.mp he with h | ⟨a, ha, h⟩
  · exact hx e h
  · exact hf a ha e h

/-- A guard raises nothing but its error. -/
theorem raises_only_raise_if {condition : Prop} [Decidable condition] {error : ε}
    (h : condition → p error) : raises_only (raise_if condition error) p := by
  intro e he
  obtain ⟨hcondition, rfl⟩ := raise_if_eq_error.mp he
  exact h hcondition

/-- A missing value raises nothing but the error given for it. -/
theorem raises_only_get_or_raise {value : Option α} {error : ε} (h : value = none → p error) :
    raises_only (get_or_raise value error) p := by
  intro e he
  obtain ⟨hnone, rfl⟩ := get_or_raise_eq_error.mp he
  exact h hnone

/-- Mapping the result raises nothing more. -/
theorem raises_only_map {x : Except ε α} {f : α → β} (h : raises_only x p) :
    raises_only (x.map f) p := by
  cases x with
  | error e => exact raises_only_error (h e rfl)
  | ok a => exact raises_only_ok

/-- Renamed errors are the ones that the renaming gives. -/
theorem raises_only_mapError {ε' : Type} {x : Except ε' α} {f : ε' → ε}
    (h : ∀ e, x = .error e → p (f e)) : raises_only (x.mapError f) p := by
  cases x with
  | error e => exact raises_only_error (h e rfl)
  | ok a => exact raises_only_ok

end raises_only

end guarded
