import Mathlib.Data.List.Basic
import Sigis.Lib.Guarded

namespace transactional

/-- The body of a unit of work: it reads and writes a view of the store, which replaces the
store when the body returns and is dropped when it raises. -/
abbrev Transaction (σ ε α : Type) := StateT σ (Except ε) α

variable {σ ε α β : Type} {x : Transaction σ ε α} {f : α → Transaction σ ε β} {s t : σ} {a : α} {b : β} {e : ε}

namespace Transaction

/-- What `raise` does in a body. -/
def raise (error : ε) : Transaction σ ε α := fun _ => .error error

/-- A computation on the store as the body sees it. -/
def reads (read : σ → Except ε α) : Transaction σ ε α := fun s => (read s).map fun a => (a, s)

/-- A write that a constraint may refuse. -/
def writes (write : σ → Option σ) (refused : ε) : Transaction σ ε Unit := fun s =>
  match write s with
  | none => .error refused
  | some t => .ok ((), t)

/-- A sequence commits what its second part leaves after the first one. -/
theorem bind_eq_ok_iff : (x >>= f) s = .ok (b, t) ↔ ∃ a u, x s = .ok (a, u) ∧ f a u = .ok (b, t) := by
  change ((x s) >>= fun done => f done.1 done.2) = .ok (b, t) ↔ _
  rw [guarded.bind_eq_ok_iff]
  exact Prod.exists

/-- A sequence raises what its first part raises, or else its second one. -/
theorem bind_eq_error_iff :
    (x >>= f) s = .error e ↔ x s = .error e ∨ ∃ a u, x s = .ok (a, u) ∧ f a u = .error e := by
  change ((x s) >>= fun done => f done.1 done.2) = .error e ↔ _
  rw [guarded.bind_eq_error_iff]
  exact or_congr Iff.rfl Prod.exists

/-- Returning a value leaves the store as it is. -/
@[simp] theorem pure_eq_ok_iff {c : α} : (pure a : Transaction σ ε α) s = .ok (c, t) ↔ c = a ∧ t = s := by
  change Except.ok (a, s) = .ok (c, t) ↔ _
  rw [Except.ok.injEq, Prod.mk.injEq, eq_comm, eq_comm (a := s)]

@[simp] theorem pure_ne_error : (pure a : Transaction σ ε α) s ≠ .error e := by
  rintro ⟨⟩

@[simp] theorem raise_ne_ok : (raise e : Transaction σ ε α) s ≠ .ok (a, t) := by
  rintro ⟨⟩

@[simp] theorem raise_eq_error_iff {error : ε} :
    (raise error : Transaction σ ε α) s = .error e ↔ error = e := by
  rw [raise, Except.error.injEq]

/-- A read returns what it finds, and leaves the store as it is. -/
@[simp] theorem reads_eq_ok_iff {read : σ → Except ε α} :
    reads read s = .ok (a, t) ↔ read s = .ok a ∧ t = s := by
  unfold reads
  cases read s with
  | error e => simp [Except.map]
  | ok b => simp [Except.map, eq_comm]

/-- A read raises what the reading does. -/
@[simp] theorem reads_eq_error_iff {read : σ → Except ε α} :
    reads read s = .error e ↔ read s = .error e := by
  unfold reads
  cases read s <;> simp [Except.map]

/-- A write goes through when the database takes it. -/
@[simp] theorem writes_eq_ok_iff {write : σ → Option σ} {u : Unit} :
    writes write e s = .ok (u, t) ↔ write s = some t := by
  unfold writes
  cases write s <;> simp

/-- A write that the database refuses raises its error. -/
@[simp] theorem writes_eq_error_iff {write : σ → Option σ} {refused : ε} :
    writes write refused s = .error e ↔ write s = none ∧ refused = e := by
  unfold writes
  cases write s <;> simp

/-- A computation without the store leaves it as it is. -/
@[simp] theorem lift_eq_ok_iff {y : Except ε α} :
    (liftM y : Transaction σ ε α) s = .ok (a, t) ↔ y = .ok a ∧ t = s := by
  cases y with
  | error e => exact ⟨fun h => (by cases h), fun h => (by cases h.1)⟩
  | ok b =>
    change Except.ok (b, s) = .ok (a, t) ↔ _
    rw [Except.ok.injEq, Prod.mk.injEq, Except.ok.injEq, eq_comm (a := s)]

/-- A computation without the store raises what it raises. -/
@[simp] theorem lift_eq_error_iff {y : Except ε α} :
    (liftM y : Transaction σ ε α) s = .error e ↔ y = .error e := by
  cases y with
  | error error =>
    change Except.error error = .error e ↔ _
    rw [Except.error.injEq, Except.error.injEq]
  | ok b => exact ⟨fun h => (by cases h), fun h => (by cases h)⟩

/-- After a read the body goes on in the same store. -/
theorem reads_bind_eq_ok_iff {read : σ → Except ε α} :
    (reads read >>= f) s = .ok (b, t) ↔ ∃ a, read s = .ok a ∧ f a s = .ok (b, t) := by
  rw [bind_eq_ok_iff]
  constructor
  · rintro ⟨a, _, hread, hrest⟩
    obtain ⟨ha, rfl⟩ := reads_eq_ok_iff.mp hread
    exact ⟨a, ha, hrest⟩
  · rintro ⟨a, ha, hrest⟩
    exact ⟨a, s, reads_eq_ok_iff.mpr ⟨ha, rfl⟩, hrest⟩

/-- After a computation without the store the body goes on in the same one. -/
theorem lift_bind_eq_ok_iff {y : Except ε α} :
    ((liftM y : Transaction σ ε α) >>= f) s = .ok (b, t) ↔ ∃ a, y = .ok a ∧ f a s = .ok (b, t) := by
  rw [bind_eq_ok_iff]
  constructor
  · rintro ⟨a, _, hlift, hrest⟩
    obtain ⟨ha, rfl⟩ := lift_eq_ok_iff.mp hlift
    exact ⟨a, ha, hrest⟩
  · rintro ⟨a, ha, hrest⟩
    exact ⟨a, s, lift_eq_ok_iff.mpr ⟨ha, rfl⟩, hrest⟩

/-- A body that begins with a computation goes on with what it returns. -/
theorem lift_bind_apply {y : Except ε α} : ((liftM y : Transaction σ ε α) >>= f) s = y >>= fun a => f a s := by
  cases y <;> rfl

/-- After a read the body is run in the store that was read. -/
theorem reads_bind_apply {read : σ → Except ε α} : (reads read >>= f) s = read s >>= fun a => f a s := by
  change (reads read s >>= fun done => f done.1 done.2) = _
  unfold reads
  cases read s <;> rfl

/-- Whenever the body returns, the store it was given and the one it leaves are related. -/
def Relates (R : σ → σ → Prop) (x : Transaction σ ε α) : Prop :=
  ∀ s a t, x s = .ok (a, t) → R s t

section relates

variable {R : σ → σ → Prop}

/-- What relates the stores before and after both parts relates those of the sequence. -/
theorem relates_bind (htrans : ∀ {s t u}, R s t → R t u → R s u) (hx : Relates R x)
    (hf : ∀ a, Relates R (f a)) : Relates R (x >>= f) := by
  intro s b u h
  obtain ⟨a, t, hfirst, hrest⟩ := bind_eq_ok_iff.mp h
  exact htrans (hx s a t hfirst) (hf a t b u hrest)

/-- What relates the stores of each turn relates those of the loop. -/
theorem relates_mapM {γ : Type} {g : γ → Transaction σ ε β} (hrefl : ∀ s, R s s)
    (htrans : ∀ {s t u}, R s t → R t u → R s u) {items : List γ} (hg : ∀ c ∈ items, Relates R (g c)) :
    Relates R (items.mapM g) := by
  induction items with
  | nil =>
    intro s a t h
    rw [List.mapM_nil] at h
    obtain ⟨-, rfl⟩ := pure_eq_ok_iff.mp h
    exact hrefl t
  | cons c rest ih =>
    rw [List.mapM_cons]
    refine relates_bind htrans (hg c List.mem_cons_self) fun b => ?_
    refine relates_bind htrans (ih fun d hd => hg d (List.mem_cons_of_mem c hd)) fun bs => ?_
    intro s a t h
    obtain ⟨-, rfl⟩ := pure_eq_ok_iff.mp h
    exact hrefl t

end relates

section raises_only

open guarded (raises_only)

variable {p : ε → Prop}

/-- A read raises only what the reading does. -/
theorem raises_only_reads {read : σ → Except ε α} (h : raises_only (read s) p) : raises_only (reads read s) p :=
  guarded.raises_only_map h

/-- A computation without the store raises only what it raises. -/
theorem raises_only_lift {y : Except ε α} (h : raises_only y p) :
    raises_only ((liftM y : Transaction σ ε α) s) p := by
  intro e he
  exact h e (lift_eq_error_iff.mp he)

theorem raises_only_pure : raises_only ((pure a : Transaction σ ε α) s) p := guarded.raises_only_ok

/-- What a sequence raises comes from one of its parts. -/
theorem raises_only_bind (hx : raises_only (x s) p) (hf : ∀ a t, x s = .ok (a, t) → raises_only (f a t) p) :
    raises_only ((x >>= f) s) p := by
  intro e he
  rcases bind_eq_error_iff.mp he with h | ⟨a, t, ha, h⟩
  · exact hx e h
  · exact hf a t ha e h

/-- After a read the body goes on in the same store. -/
theorem raises_only_reads_bind {read : σ → Except ε α} (hread : raises_only (read s) p)
    (hf : ∀ a, read s = .ok a → raises_only (f a s) p) : raises_only ((reads read >>= f) s) p := by
  refine raises_only_bind (raises_only_reads hread) ?_
  intro a t h
  obtain ⟨ha, rfl⟩ := reads_eq_ok_iff.mp h
  exact hf a ha

/-- After a computation without the store the body goes on in the same one. -/
theorem raises_only_lift_bind {y : Except ε α} (hy : raises_only y p)
    (hf : ∀ a, y = .ok a → raises_only (f a s) p) :
    raises_only (((liftM y : Transaction σ ε α) >>= f) s) p := by
  refine raises_only_bind (raises_only_lift hy) ?_
  intro a t h
  obtain ⟨ha, rfl⟩ := lift_eq_ok_iff.mp h
  exact hf a ha

end raises_only

end Transaction

/-- A body run in a unit of work of its own: committed when it returns, rolled back when it
raises. -/
def atomically (x : Transaction σ ε α) (s : σ) : Except ε α × σ :=
  match x s with
  | .error error => (.error error, s)
  | .ok (a, t) => (.ok a, t)

/-- A body that returns has its store committed. -/
theorem atomically_eq_ok_iff : atomically x s = (.ok a, t) ↔ x s = .ok (a, t) := by
  unfold atomically
  cases x s with
  | error e => simp
  | ok done => simp [Prod.ext_iff]

/-- A body that raises leaves the store as it was. -/
theorem atomically_eq_error_iff : atomically x s = (.error e, t) ↔ x s = .error e ∧ t = s := by
  unfold atomically
  cases x s with
  | error e => simp [eq_comm]
  | ok done => simp

/-- A step outside of the unit of work, after it has been committed: what it raises no
longer undoes the commit. -/
def after_commit (done : Except ε α × σ) (f : α → Except ε β) : Except ε β × σ := (done.1 >>= f, done.2)

@[simp] theorem after_commit_snd {done : Except ε α × σ} {f : α → Except ε β} :
    (after_commit done f).2 = done.2 := rfl

/-- What returns has returned inside of the unit of work and after it. -/
theorem after_commit_eq_ok_iff {done : Except ε α × σ} {g : α → Except ε β} :
    after_commit done g = (.ok b, t) ↔ ∃ a, done = (.ok a, t) ∧ g a = .ok b := by
  obtain ⟨result, u⟩ := done
  simp only [after_commit, Prod.mk.injEq, guarded.bind_eq_ok_iff]
  constructor
  · rintro ⟨⟨a, rfl, hg⟩, rfl⟩
    exact ⟨a, ⟨rfl, rfl⟩, hg⟩
  · rintro ⟨a, ⟨rfl, rfl⟩, hg⟩
    exact ⟨⟨a, rfl, hg⟩, rfl⟩

/-- What is raised comes from inside, and nothing was committed, or from after the commit. -/
theorem after_commit_eq_error_iff {done : Except ε α × σ} {g : α → Except ε β} :
    after_commit done g = (.error e, t) ↔
      done = (.error e, t) ∨ ∃ a, done = (.ok a, t) ∧ g a = .error e := by
  obtain ⟨result, u⟩ := done
  simp only [after_commit, Prod.mk.injEq, guarded.bind_eq_error_iff]
  constructor
  · rintro ⟨rfl | ⟨a, rfl, hg⟩, rfl⟩
    · exact Or.inl ⟨rfl, rfl⟩
    · exact Or.inr ⟨a, ⟨rfl, rfl⟩, hg⟩
  · rintro (⟨rfl, rfl⟩ | ⟨a, ⟨rfl, rfl⟩, hg⟩)
    · exact ⟨Or.inl rfl, rfl⟩
    · exact ⟨Or.inr ⟨a, rfl, hg⟩, rfl⟩

end transactional
