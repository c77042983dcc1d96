import Mathlib.Data.List.Basic

namespace connections

/-- A connection inside a transaction: the database as the transaction sees it, whether the server takes
no further statement once one has failed, and whether one has. -/
structure Connection (σ : Type) where
  db : σ
  strict : Bool
  aborted : Bool := false

/-- A connection on which no statement has failed. -/
def Connection.live {σ : Type} (strict : Bool) (db : σ) : Connection σ := { db := db, strict := strict }

/-- Code that runs statements. What it has changed stays changed when it raises. -/
abbrev Procedure (σ ε α : Type) := ExceptT ε (StateM (Connection σ)) α

variable {σ ε α β : Type}

/-- A query. -/
def query (refused : ε) (read : σ → Except ε α) : Procedure σ ε α := fun c =>
  if c.aborted then (.error refused, c)
  else
    match read c.db with
    | .ok a => (.ok a, c)
    | .error e => (.error e, { c with aborted := c.strict })

/-- A statement that changes the database, or fails. -/
def execute (refused : ε) (statement : σ → Except ε σ) : Procedure σ ε Unit := fun c =>
  if c.aborted then (.error refused, c)
  else
    match statement c.db with
    | .ok db => (.ok (), { c with db := db })
    | .error e => (.error e, { c with aborted := c.strict })

/-- `try: ... except Exception: log`. What was done before the exception stays done. -/
def logged (body : Procedure σ ε Unit) : Procedure σ ε Unit := fun c => (.ok (), (body c).2)

/-- `with engine.begin()`: the transaction is committed unless the code raises; the commit of an aborted
transaction rolls it back. -/
def begin_ (strict : Bool) (body : Procedure σ ε Unit) (db : σ) : Except ε σ :=
  match body (.live strict db) with
  | (.ok (), c) => .ok (if c.aborted then db else c.db)
  | (.error e, _) => .error e

section rules

variable {refused e : ε} {read : σ → Except ε α} {statement : σ → Except ε σ} {c c' : Connection σ} {strict : Bool}
  {x : Procedure σ ε α} {f : α → Procedure σ ε β} {body : Procedure σ ε Unit} {a : α} {db db' : σ}

theorem bind_of_ok (h : x c = (.ok a, c')) : (x >>= f) c = f a c' := by
  change (match x c with | (r, s) => ExceptT.bindCont f r s) = f a c'
  rw [h]
  rfl

theorem bind_of_error (h : x c = (.error e, c')) : (x >>= f) c = (.error e, c') := by
  change (match x c with | (r, s) => ExceptT.bindCont f r s) = (.error e, c')
  rw [h]
  rfl

theorem query_live (h : read db = .ok a) :
    query refused read (.live strict db) = (.ok a, .live strict db) := by
  change (match read db with | .ok a => _ | .error e => _) = _
  rw [h]

theorem execute_live (h : statement db = .ok db') :
    execute refused statement (.live strict db) = (.ok (), .live strict db') := by
  change (match statement db with | .ok db => _ | .error e => _) = _
  rw [h]
  rfl

theorem execute_live_error (h : statement db = .error e) :
    execute refused statement (.live strict db) = (.error e, { db := db, strict := strict, aborted := strict }) := by
  change (match statement db with | .ok db => _ | .error e => _) = _
  rw [h]
  rfl

theorem execute_of_aborted (h : c.aborted = true) : execute refused statement c = (.error refused, c) := by
  rw [execute, h]
  rfl

theorem logged_of_eq {result : Except ε Unit} (h : body c = (result, c')) : logged body c = (.ok (), c') := by
  rw [logged, h]

/-- Statements one after the other that do not fail, on the databases of one form. -/
theorem forM_live {ι τ : Type} {step : ι → Procedure σ ε Unit} (form : τ → σ) (change : τ → ι → τ) (items : List ι)
    (hstep : ∀ t, ∀ i ∈ items, step i (.live strict (form t)) = (.ok (), .live strict (form (change t i)))) :
    ∀ t, (forM items step : Procedure σ ε Unit) (.live strict (form t)) =
      (.ok (), .live strict (form (items.foldl change t))) := by
  induction items with
  | nil =>
    intro t
    rfl
  | cons i items ih =>
    intro t
    rw [List.forM_cons, bind_of_ok (hstep t i List.mem_cons_self)]
    exact ih (fun t j hj => hstep t j (List.mem_cons_of_mem i hj)) (change t i)

theorem begin_of_live (h : body (.live strict db) = (.ok (), .live strict db')) : begin_ strict body db = .ok db' := by
  rw [begin_, h]
  rfl

/-- The commit of an aborted transaction leaves the database as it was. -/
theorem begin_of_aborted (h : body (.live strict db) = (.ok (), c)) (hc : c.aborted = true) :
    begin_ strict body db = .ok db := by
  rw [begin_, h]
  simp [hc]

end rules

end connections
