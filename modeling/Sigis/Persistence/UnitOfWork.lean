import Mathlib.Data.List.Basic
import Sigis.Lib.Nesting

open nesting

namespace sigis

/-! `infrastructure/persistence/sqlalchemy/uow.py`, what it does with its sessions. Its
repositories are built on the session it holds and dropped with it. -/

/-- How often a session was committed, rolled back and closed since it was opened. -/
structure AsyncSession where
  commits : Nat := 0
  rollbacks : Nat := 0
  closes : Nat := 0

/-- `self._session_factory()`. -/
def session_factory : AsyncSession := {}

def AsyncSession.commit (session : AsyncSession) : AsyncSession := { session with commits := session.commits + 1 }

def AsyncSession.rollback (session : AsyncSession) : AsyncSession :=
  { session with rollbacks := session.rollbacks + 1 }

def AsyncSession.close (session : AsyncSession) : AsyncSession := { session with closes := session.closes + 1 }

/-- How the code of a block ends: it raises, or it does not and then the commit may. -/
inductive Leave
  | raising
  | normally (commit : Except String Unit)

/-- The object, by the position of the session it holds among those its factory has opened. -/
structure SqlAlchemyUnitOfWork where
  opened : List AsyncSession
  session : Option Nat

namespace SqlAlchemyUnitOfWork

def init : SqlAlchemyUnitOfWork := ⟨[], none⟩

/-- `__aenter__`: a new session takes the place of the one that is held. -/
def aenter (uow : SqlAlchemyUnitOfWork) : SqlAlchemyUnitOfWork where
  opened := uow.opened ++ [session_factory]
  session := some uow.opened.length

/-- `__aexit__` on the session that is held. -/
def finish (uow : SqlAlchemyUnitOfWork) (position : Nat) (settle : AsyncSession → AsyncSession) :
    SqlAlchemyUnitOfWork where
  opened := uow.opened.modify position fun session => (settle session).close
  session := none

/-- `__aexit__`: nothing after a commit that raises is reached. -/
def aexit (leave : Leave) (uow : SqlAlchemyUnitOfWork) : Except String Unit × SqlAlchemyUnitOfWork :=
  match uow.session with
  | none => (.ok (), uow)
  | some position =>
    match leave with
    | .raising => (.ok (), uow.finish position .rollback)
    | .normally (.ok ()) => (.ok (), uow.finish position .commit)
    | .normally (.error e) => (.error e, uow)

/-- The blocks `async with` makes of one object. An exit that raises is left like any other:
the block around it raises too, unless it catches the exception. -/
def run (blocks : Nesting Leave) (uow : SqlAlchemyUnitOfWork) : SqlAlchemyUnitOfWork :=
  blocks.run aenter (fun leave uow => (uow.aexit leave).2) uow

end SqlAlchemyUnitOfWork

/-- Committed or rolled back once, and closed once. -/
def AsyncSession.Settled (session : AsyncSession) : Prop :=
  session.commits + session.rollbacks = 1 ∧ session.closes = 1

instance (session : AsyncSession) : Decidable session.Settled := inferInstanceAs (Decidable (_ ∧ _))

/-- The commit of a block that is left normally does not raise. -/
def Leave.Clean : Leave → Prop
  | .normally (.error _) => False
  | _ => True

/-- No block is inside another one, and no commit raises. -/
def Plain : Nesting Leave → Prop
  | .done => True
  | .block inner leave rest => inner = .done ∧ leave.Clean ∧ Plain rest

open SqlAlchemyUnitOfWork

variable {uow : SqlAlchemyUnitOfWork} {leave : Leave} {blocks : Nesting Leave} {position : Nat} {session : AsyncSession}

/-- The object holds another session than this one, or none. -/
structure Abandoned (position : Nat) (session : AsyncSession) (uow : SqlAlchemyUnitOfWork) : Prop where
  opened : uow.opened[position]? = some session
  held : uow.session ≠ some position

/-- Entering abandons the session that is held. -/
theorem abandoned_aenter (hopened : uow.opened[position]? = some session) : Abandoned position session uow.aenter := by
  have hlt : position < uow.opened.length := (List.getElem?_eq_some_iff.mp hopened).1
  constructor
  · exact (List.getElem?_append_left hlt).trans hopened
  · intro hheld
    have hlength : uow.opened.length = position := Option.some.inj hheld
    omega

/-- A session that is held no more stays as it is when another one is finished. -/
theorem Abandoned.finish {held : Nat} {settle : AsyncSession → AsyncSession} (h : Abandoned position session uow)
    (hheld : uow.session = some held) : Abandoned position session (uow.finish held settle) := by
  constructor
  · have hne : held ≠ position := fun hsame => h.held (hsame ▸ hheld)
    exact (List.getElem?_modify_ne _ _ hne).trans h.opened
  · exact nofun

/-- And when the block that is left is another one's. -/
theorem Abandoned.aexit (h : Abandoned position session uow) : Abandoned position session (uow.aexit leave).2 := by
  unfold SqlAlchemyUnitOfWork.aexit
  split
  · exact h
  · next held hheld =>
    split
    · exact h.finish hheld
    · exact h.finish hheld
    · exact h

/-- A session that is abandoned is never touched again. -/
theorem Abandoned.run (h : Abandoned position session uow) (blocks : Nesting Leave) :
    Abandoned position session (uow.run blocks) :=
  blocks.invariant (Abandoned position session) (fun h => abandoned_aenter h.opened) Abandoned.aexit h

/-- It is one of those that were opened. -/
theorem Abandoned.mem (h : Abandoned position session uow) : session ∈ uow.opened :=
  List.mem_of_getElem? h.opened

/-- One that is abandoned without being settled stays so. -/
theorem Abandoned.leaks (h : Abandoned position session uow) (hsession : ¬ session.Settled) (blocks : Nesting Leave) :
    ¬ ∀ session ∈ (uow.run blocks).opened, session.Settled :=
  fun hall => hsession (hall session (h.run blocks).mem)

/-- A new session is not settled. -/
theorem not_settled_opened : ¬ session_factory.Settled := by
  intro h
  cases h.2

/-- Entering opens a session. -/
theorem opened_aenter : uow.aenter.opened[uow.opened.length]? = some session_factory := List.getElem?_concat_length

/-- A block inside of another one is entered before the session of the outer one is settled. -/
theorem nested_leaks (inner : Nesting Leave) (innermost : Leave) (rest after : Nesting Leave) :
    ¬ ∀ session ∈ (uow.run (.block (.block inner innermost rest) leave after)).opened, session.Settled := by
  have h : Abandoned uow.opened.length session_factory uow.aenter.aenter := abandoned_aenter opened_aenter
  exact (((h.run inner).aexit.run rest).aexit).leaks not_settled_opened after

/-- After a commit that raises the object still holds the session. It lets go of it at its next
entry only. -/
theorem held_leaks (uow : SqlAlchemyUnitOfWork) (h : uow.opened[position]? = some session)
    (hsession : ¬ session.Settled) (blocks : Nesting Leave) :
    ¬ ∀ session ∈ (uow.run blocks).opened, session.Settled := by
  cases blocks with
  | done => exact fun hall => hsession (hall session (List.mem_of_getElem? h))
  | block inner leave rest => exact (((abandoned_aenter h).run inner).aexit).leaks hsession rest

/-- Leaving what was just entered finishes that session. -/
theorem finish_aenter (uow : SqlAlchemyUnitOfWork) (settle : AsyncSession → AsyncSession) :
    uow.aenter.finish uow.opened.length settle = ⟨uow.opened ++ [(settle session_factory).close], none⟩ := by
  have hlt : uow.opened.length < (uow.opened ++ [session_factory]).length := by simp
  rw [finish, aenter, List.modify_eq_take_cons_drop hlt]
  simp

/-- A block of its own whose commit does not raise settles its session. -/
theorem aexit_aenter (uow : SqlAlchemyUnitOfWork) (hclean : leave.Clean) :
    ∃ session : AsyncSession, session.Settled ∧ (uow.aenter.aexit leave).2 = ⟨uow.opened ++ [session], none⟩ := by
  cases leave with
  | raising => exact ⟨_, ⟨rfl, rfl⟩, finish_aenter uow .rollback⟩
  | normally commit =>
    cases commit with
    | error e => exact hclean.elim
    | ok u => exact ⟨_, ⟨rfl, rfl⟩, finish_aenter uow .commit⟩

/-- From an object that holds no session, exactly the blocks that are not nested and whose
commits do not raise settle every session they open. -/
theorem settles_iff (hnone : uow.session = none) :
    (∀ session ∈ (uow.run blocks).opened, session.Settled) ↔
      (∀ session ∈ uow.opened, session.Settled) ∧ Plain blocks := by
  induction blocks generalizing uow with
  | done => exact (and_iff_left trivial).symm
  | block inner leave rest _ ih =>
    cases inner with
    | block inner innermost more =>
      refine iff_of_false (nested_leaks inner innermost more rest) ?_
      rintro ⟨-, hinner, -⟩
      cases hinner
    | done =>
      by_cases hclean : leave.Clean
      · obtain ⟨session, hsettled, hexit⟩ := aexit_aenter uow hclean
        change (∀ session ∈ ((uow.aenter.aexit leave).2.run rest).opened, session.Settled) ↔ _
        rw [hexit, ih rfl, List.forall_mem_append, List.forall_mem_singleton, Plain]
        tauto
      · cases leave with
        | raising => exact absurd trivial hclean
        | normally commit =>
          cases commit with
          | ok u => exact absurd trivial hclean
          | error e =>
            refine iff_of_false (held_leaks uow.aenter opened_aenter not_settled_opened rest) ?_
            rintro ⟨-, -, hcommit, -⟩
            exact hcommit

/-- All sessions are settled when the outermost block has been left exactly when no block was
entered inside another one and no commit raised. -/
theorem sessions_settled_iff (blocks : Nesting Leave) :
    (∀ session ∈ (SqlAlchemyUnitOfWork.init.run blocks).opened, session.Settled) ↔ Plain blocks := by
  refine (settles_iff rfl).trans (and_iff_right ?_)
  exact fun session hsession => absurd hsession List.not_mem_nil

/-- `get_uow` around a use case that enters the same object again. -/
def reentered (use_case endpoint : Leave) : Nesting Leave := .block (.block .done use_case .done) endpoint .done

/-- A login leaves a session that nobody commits, rolls back or closes. -/
theorem login_leaks_session :
    ¬ ∀ session ∈ (SqlAlchemyUnitOfWork.init.run (reentered (.normally (.ok ())) (.normally (.ok ())))).opened,
      session.Settled := by
  decide

/-- What `session_scope` does with its session: a commit that raises is rolled back, and the
session is closed in any case. -/
def Leave.scope : Leave → AsyncSession → AsyncSession
  | .normally (.ok ()), session => session.commit.close
  | .normally (.error _), session => session.rollback.close
  | .raising, session => session.rollback.close

/-- Scopes in each other; every one has a session of its own. -/
def session_scope : Nesting Leave → List AsyncSession → List AsyncSession
  | .done, opened => opened
  | .block inner leave rest, opened =>
    session_scope rest ((session_scope inner (opened ++ [session_factory])).modify opened.length leave.scope)

/-- A scope settles its session, however it is left. -/
theorem settled_scope (leave : Leave) : (leave.scope session_factory).Settled := by
  cases leave with
  | raising => exact ⟨rfl, rfl⟩
  | normally commit => cases commit <;> exact ⟨rfl, rfl⟩

/-- Scopes settle every session they open, nested or not, and touch no other one. -/
theorem session_scope_settles (blocks : Nesting Leave) (opened : List AsyncSession) :
    ∃ settled, session_scope blocks opened = opened ++ settled ∧ ∀ session ∈ settled, session.Settled := by
  induction blocks generalizing opened with
  | done => exact ⟨[], (List.append_nil opened).symm, fun session h => absurd h List.not_mem_nil⟩
  | block inner leave rest ihinner ihrest =>
    obtain ⟨inside, hinner, hinside⟩ := ihinner (opened ++ [session_factory])
    have hown : (session_scope inner (opened ++ [session_factory])).modify opened.length leave.scope =
        opened ++ leave.scope session_factory :: inside := by
      have hlt : opened.length < (opened ++ session_factory :: inside).length := by simp
      rw [hinner, List.append_assoc, List.singleton_append, List.modify_eq_take_cons_drop hlt]
      simp
    obtain ⟨later, hrest, hlater⟩ := ihrest (opened ++ leave.scope session_factory :: inside)
    refine ⟨leave.scope session_factory :: (inside ++ later), ?_, ?_⟩
    · rw [session_scope, hown, hrest, List.append_assoc, List.cons_append]
    · rw [List.forall_mem_cons, List.forall_mem_append]
      exact ⟨settled_scope leave, hinside, hlater⟩

end sigis
