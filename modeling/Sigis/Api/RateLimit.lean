import Mathlib.Algebra.Order.Ring.Rat
import Mathlib.Logic.Function.Basic
import Sigis.Accounts.Errors
import Sigis.Lib.SlidingWindow
import Sigis.Python.Text

open sliding_window

namespace sigis

/-! `api/rate_limit.py`. -/

/-- A call of `enforce_rate_limit`: what it reads of the request, the prefix its route gives, and
the `time.monotonic()` it reads. -/
structure RateLimitCall where
  client_host : Option String
  key_prefix : String
  now : ℚ
deriving DecidableEq, Repr

/-- `request.client.host if request.client else "unknown"`. -/
def RateLimitCall.host (call : RateLimitCall) : String := call.client_host.getD "unknown"

def RateLimitCall.key (call : RateLimitCall) : String := call.key_prefix ++ ":" ++ call.host

/-- `_buckets`, where a key nobody has used has an empty list. -/
abbrev Buckets := String → List ℚ

def TOO_MANY_REQUESTS : accounts.Error :=
  .HTTPException 429 (.text "Trop de requêtes. Réessayez dans une minute.")

/-- `enforce_rate_limit`, under `_lock`; the pruned bucket stays also when the call is refused. -/
def enforce_rate_limit (max_per_minute : Int) (call : RateLimitCall) (buckets : Buckets) :
    Except accounts.Error Unit × Buckets :=
  if max_per_minute ≤ 0 then (.ok (), buckets)
  else
    let cutoff := call.now - 60
    let bucket := (buckets call.key).filter (cutoff < ·)
    if max_per_minute ≤ bucket.length then
      (.error TOO_MANY_REQUESTS, Function.update buckets call.key bucket)
    else (.ok (), Function.update buckets call.key (bucket ++ [call.now]))

/-- The limiter in a run, with the calls it has accepted. -/
structure Throttle where
  buckets : Buckets := fun _ => []
  accepted : List RateLimitCall := []

def Throttle.serve (max_per_minute : Int) (s : Throttle) (call : RateLimitCall) : Throttle :=
  match enforce_rate_limit max_per_minute call s.buckets with
  | (.ok _, buckets) => { buckets, accepted := s.accepted ++ [call] }
  | (.error _, buckets) => { s with buckets }

/-- After these calls of a process that has just started. -/
def throttle (max_per_minute : Int) (calls : List RateLimitCall) : Throttle :=
  calls.foldl (Throttle.serve max_per_minute) {}

/-- What a call is answered after others. -/
def rate_limit_answer (max_per_minute : Int) (before : List RateLimitCall) (call : RateLimitCall) :
    Except accounts.Error Unit :=
  (enforce_rate_limit max_per_minute call (throttle max_per_minute before).buckets).1

/-- The accepted calls of a key in `(t - 60, t]`. -/
def accepted_within (accepted : List RateLimitCall) (key : String) (t : ℚ) : List RateLimitCall :=
  within RateLimitCall.key RateLimitCall.now 60 accepted key t

section follows

variable {max_per_minute : Int} {s : Throttle} {call : RateLimitCall} {calls before : List RateLimitCall} {t : ℚ}

theorem enforce_rate_limit_eq (hmax : 0 < max_per_minute) (buckets : Buckets) :
    enforce_rate_limit max_per_minute call buckets =
      if (recent 60 (buckets call.key) call.now).length < max_per_minute.toNat then
        (.ok (), Function.update buckets call.key (recent 60 (buckets call.key) call.now ++ [call.now]))
      else
        (.error TOO_MANY_REQUESTS, Function.update buckets call.key (recent 60 (buckets call.key) call.now)) := by
  rw [enforce_rate_limit, if_neg (by omega)]
  change (if max_per_minute ≤ ((recent 60 (buckets call.key) call.now).length : Int) then _ else _) = _
  by_cases hfew : (recent 60 (buckets call.key) call.now).length < max_per_minute.toNat
  · rw [if_neg (by omega), if_pos hfew]
    rfl
  · rw [if_pos (by omega), if_neg hfew]
    rfl

/-- The whole history admits the call. -/
abbrev Throttle.Admits (max_per_minute : Int) (s : Throttle) (call : RateLimitCall) : Prop :=
  sliding_window.Admits RateLimitCall.key RateLimitCall.now 60 max_per_minute.toNat s.accepted call

/-- From `t` on, every bucket shows the recent ones of the calls accepted, and no other. -/
structure Throttle.Follows (s : Throttle) (t : ℚ) : Prop where
  past : ∀ call ∈ s.accepted, call.now ≤ t
  shows : ∀ key, Shows 60 (s.buckets key) (times_of RateLimitCall.key RateLimitCall.now s.accepted key) t

theorem Throttle.Follows.later {u : ℚ} (h : s.Follows t) (htu : t ≤ u) : s.Follows u where
  past call hcall := (h.past call hcall).trans htu
  shows key := (h.shows key).later htu

/-- What a bucket counts is what the history holds in the window. -/
theorem Throttle.Follows.length_recent (h : s.Follows call.now) :
    (recent 60 (s.buckets call.key) call.now).length = (accepted_within s.accepted call.key call.now).length := by
  rw [h.shows call.key call.now le_rfl, length_recent_times_of h.past, accepted_within]

theorem enforce_rate_limit_ok (hmax : 0 < max_per_minute) (h : s.Follows call.now)
    (hadmits : s.Admits max_per_minute call) : enforce_rate_limit max_per_minute call s.buckets =
      (.ok (), Function.update s.buckets call.key (recent 60 (s.buckets call.key) call.now ++ [call.now])) := by
  rw [enforce_rate_limit_eq hmax, if_pos (h.length_recent.trans_lt hadmits)]

theorem enforce_rate_limit_error (hmax : 0 < max_per_minute) (h : s.Follows call.now)
    (hadmits : ¬ s.Admits max_per_minute call) : enforce_rate_limit max_per_minute call s.buckets =
      (.error TOO_MANY_REQUESTS, Function.update s.buckets call.key (recent 60 (s.buckets call.key) call.now)) := by
  rw [enforce_rate_limit_eq hmax, if_neg fun hfew => hadmits (h.length_recent.symm.trans_lt hfew)]

theorem Throttle.serve_of_admits (hmax : 0 < max_per_minute) (h : s.Follows call.now)
    (hadmits : s.Admits max_per_minute call) : s.serve max_per_minute call =
      { buckets := Function.update s.buckets call.key (recent 60 (s.buckets call.key) call.now ++ [call.now])
        accepted := s.accepted ++ [call] } := by
  rw [Throttle.serve, enforce_rate_limit_ok hmax h hadmits]

theorem Throttle.serve_of_not_admits (hmax : 0 < max_per_minute) (h : s.Follows call.now)
    (hadmits : ¬ s.Admits max_per_minute call) : s.serve max_per_minute call =
      { s with buckets := Function.update s.buckets call.key (recent 60 (s.buckets call.key) call.now) } := by
  rw [Throttle.serve, enforce_rate_limit_error hmax h hadmits]

/-- A call is accepted as the history says. -/
theorem Throttle.serve_accepted (hmax : 0 < max_per_minute) (h : s.Follows call.now) :
    (s.serve max_per_minute call).accepted =
      record RateLimitCall.key RateLimitCall.now 60 max_per_minute.toNat s.accepted call := by
  by_cases hadmits : s.Admits max_per_minute call
  · rw [record_of_admits hadmits, serve_of_admits hmax h hadmits]
  · rw [record_of_not_admits hadmits, serve_of_not_admits hmax h hadmits]

theorem Throttle.Follows.serve (hmax : 0 < max_per_minute) (h : s.Follows call.now) :
    (s.serve max_per_minute call).Follows call.now := by
  by_cases hadmits : s.Admits max_per_minute call
  · rw [serve_of_admits hmax h hadmits]
    refine ⟨?_, fun key => ?_⟩
    · intro a ha
      rcases List.mem_append.mp ha with hold | hnew
      · exact h.past a hold
      · exact (List.mem_singleton.mp hnew) ▸ le_rfl
    · by_cases hkey : call.key = key
      · subst hkey
        dsimp only
        rw [Function.update_self, times_of_append_self]
        exact (h.shows call.key).recent.append call.now
      · dsimp only
        rw [Function.update_of_ne (Ne.symm hkey), times_of_append_of_ne hkey]
        exact h.shows key
  · rw [serve_of_not_admits hmax h hadmits]
    refine ⟨h.past, fun key => ?_⟩
    by_cases hkey : key = call.key
    · subst hkey
      dsimp only
      rw [Function.update_self]
      exact (h.shows call.key).recent
    · dsimp only
      rw [Function.update_of_ne hkey]
      exact h.shows key

theorem throttle_snoc : throttle max_per_minute (calls ++ [call]) =
    (throttle max_per_minute calls).serve max_per_minute call := by
  rw [throttle, List.foldl_append]
  rfl

/-- What a limiter accepts of these calls that never prunes. -/
abbrev unpruned (max_per_minute : Int) (calls : List RateLimitCall) : List RateLimitCall :=
  admitted RateLimitCall.key RateLimitCall.now 60 max_per_minute.toNat [] calls

/-- The buckets of a run show the calls it has accepted. -/
theorem throttle_follows (hmax : 0 < max_per_minute) (hclock : calls.Pairwise fun a b => a.now ≤ b.now)
    (hpast : ∀ call ∈ calls, call.now ≤ t) : (throttle max_per_minute calls).Follows t := by
  induction calls using List.reverseRecOn generalizing t with
  | nil => exact ⟨by simp [throttle], fun _ => .nil⟩
  | append_singleton calls call ih =>
    obtain ⟨hcalls, -, hlast⟩ := List.pairwise_append.mp hclock
    rw [throttle_snoc]
    exact ((ih hcalls fun a ha => hlast a ha call List.mem_cons_self).serve hmax).later (hpast call (by simp))

/-- The calls accepted in a run are those the whole history admits. -/
theorem throttle_accepted (hmax : 0 < max_per_minute) (hclock : calls.Pairwise fun a b => a.now ≤ b.now) :
    (throttle max_per_minute calls).accepted = unpruned max_per_minute calls := by
  induction calls using List.reverseRecOn with
  | nil => rfl
  | append_singleton calls call ih =>
    obtain ⟨hcalls, -, hlast⟩ := List.pairwise_append.mp hclock
    have hfollows := throttle_follows hmax hcalls fun a ha => hlast a ha call List.mem_cons_self
    rw [throttle_snoc, unpruned, admitted_snoc, ← unpruned, ← ih hcalls, Throttle.serve_accepted hmax hfollows]

theorem rate_limit_answer_eq (hmax : 0 < max_per_minute)
    (hclock : (before ++ [call]).Pairwise fun a b => a.now ≤ b.now) : rate_limit_answer max_per_minute before call =
      if sliding_window.Admits RateLimitCall.key RateLimitCall.now 60 max_per_minute.toNat
        (unpruned max_per_minute before) call then .ok () else .error TOO_MANY_REQUESTS := by
  obtain ⟨hbefore, -, hlast⟩ := List.pairwise_append.mp hclock
  have hfollows := throttle_follows hmax hbefore fun a ha => hlast a ha call List.mem_cons_self
  rw [rate_limit_answer, ← throttle_accepted hmax hbefore]
  by_cases hadmits : (throttle max_per_minute before).Admits max_per_minute call
  · rw [if_pos hadmits, enforce_rate_limit_ok hmax hfollows hadmits]
  · rw [if_neg hadmits, enforce_rate_limit_error hmax hfollows hadmits]

/-- A call is refused exactly when the minute up to it holds as many accepted ones as may be. -/
theorem rate_limit_answer_eq_ite (hmax : 0 < max_per_minute)
    (hclock : (before ++ [call]).Pairwise fun a b => a.now ≤ b.now) : rate_limit_answer max_per_minute before call =
      if ((accepted_within (throttle max_per_minute before).accepted call.key call.now).length : Int) = max_per_minute
      then .error TOO_MANY_REQUESTS else .ok () := by
  have hbefore := (List.pairwise_append.mp hclock).1
  have hbound : (accepted_within (unpruned max_per_minute before) call.key call.now).length ≤ max_per_minute.toNat :=
    bounded_admitted hbefore call.key call.now
  rw [rate_limit_answer_eq hmax hclock, throttle_accepted hmax hbefore]
  by_cases hadmits : sliding_window.Admits RateLimitCall.key RateLimitCall.now 60 max_per_minute.toNat
      (unpruned max_per_minute before) call
  · have hfew : (accepted_within (unpruned max_per_minute before) call.key call.now).length < max_per_minute.toNat :=
      hadmits
    rw [if_pos hadmits, if_neg (by omega)]
  · have hfull : ¬ (accepted_within (unpruned max_per_minute before) call.key call.now).length < max_per_minute.toNat :=
      hadmits
    rw [if_neg hadmits, if_pos (by omega)]

/-- A refused call leaves the history as it was. -/
theorem unpruned_of_refused {refused : RateLimitCall} {between : List RateLimitCall} (hmax : 0 < max_per_minute)
    (hclock : (before ++ [refused]).Pairwise fun a b => a.now ≤ b.now)
    (hrefused : rate_limit_answer max_per_minute before refused = .error TOO_MANY_REQUESTS) :
    unpruned max_per_minute (before ++ refused :: between) = unpruned max_per_minute (before ++ between) := by
  rw [rate_limit_answer_eq hmax hclock] at hrefused
  rw [unpruned, unpruned, admitted_append, admitted_append, admitted_cons, record_of_not_admits]
  intro hadmits
  rw [if_pos hadmits] at hrefused
  cases hrefused

/-- What the whole history admits of a key answers its calls. -/
theorem rate_limit_answer_congr {other : List RateLimitCall} (hmax : 0 < max_per_minute)
    (hclock : (before ++ [call]).Pairwise fun a b => a.now ≤ b.now)
    (hother : (other ++ [call]).Pairwise fun a b => a.now ≤ b.now)
    (hsame : (unpruned max_per_minute before).filter (fun a => a.key = call.key) =
      (unpruned max_per_minute other).filter fun a => a.key = call.key) :
    rate_limit_answer max_per_minute before call = rate_limit_answer max_per_minute other call := by
  rw [rate_limit_answer_eq hmax hclock, rate_limit_answer_eq hmax hother]
  exact if_congr (admits_congr hsame) rfl rfl

end follows

/-- Prefixes without a colon keep the keys of different prefixes or hosts apart. -/
theorem RateLimitCall.key_eq_iff {call other : RateLimitCall} (h : ':' ∉ call.key_prefix.toList)
    (h' : ':' ∉ other.key_prefix.toList) :
    call.key = other.key ↔ call.key_prefix = other.key_prefix ∧ call.host = other.host := by
  rw [RateLimitCall.key, RateLimitCall.key, ← String.toList_inj, ← String.toList_inj, ← String.toList_inj]
  simpa using separated_inj h h'

/-- The calls of a clock that never goes back are throttled by key: no minute holds more accepted
ones than the bound, a call is refused exactly when the minute up to it holds as many, and neither
a refused call nor one of another key changes what comes after it. -/
theorem throttled_by_key {max_per_minute : Int} {calls : List RateLimitCall} (hmax : 0 < max_per_minute)
    (hclock : calls.Pairwise fun a b => a.now ≤ b.now) :
    (∀ key t, ((accepted_within (throttle max_per_minute calls).accepted key t).length : Int) ≤ max_per_minute) ∧
    (∀ before call after, calls = before ++ call :: after →
      rate_limit_answer max_per_minute before call =
        if ((accepted_within (throttle max_per_minute before).accepted call.key call.now).length : Int) =
          max_per_minute then .error TOO_MANY_REQUESTS else .ok ()) ∧
    (∀ before refused between call after, calls = before ++ refused :: between ++ call :: after →
      rate_limit_answer max_per_minute before refused = .error TOO_MANY_REQUESTS →
      rate_limit_answer max_per_minute (before ++ refused :: between) call =
        rate_limit_answer max_per_minute (before ++ between) call) ∧
    (∀ before other between call after, calls = before ++ other :: between ++ call :: after →
      other.key ≠ call.key →
      rate_limit_answer max_per_minute (before ++ other :: between) call =
        rate_limit_answer max_per_minute (before ++ between) call) ∧
    ∀ call ∈ calls, ∀ other ∈ calls, ':' ∉ call.key_prefix.toList → ':' ∉ other.key_prefix.toList →
      (call.key = other.key ↔ call.key_prefix = other.key_prefix ∧ call.host = other.host) := by
  refine ⟨?_, ?_, ?_, ?_, fun _ _ _ _ => RateLimitCall.key_eq_iff⟩
  · intro key t
    have hbounded : (accepted_within (unpruned max_per_minute calls) key t).length ≤ max_per_minute.toNat :=
      bounded_admitted hclock key t
    rw [throttle_accepted hmax hclock]
    omega
  · rintro before call after rfl
    exact rate_limit_answer_eq_ite hmax (hclock.sublist (by simp))
  · rintro before refused between call after rfl hrefused
    refine rate_limit_answer_congr hmax (hclock.sublist (by simp)) (hclock.sublist (by simp)) ?_
    rw [unpruned_of_refused hmax (hclock.sublist (by simp)) hrefused]
  · rintro before other between call after rfl hother
    refine rate_limit_answer_congr hmax (hclock.sublist (by simp)) (hclock.sublist (by simp)) ?_
    rw [unpruned, unpruned, filter_admitted, filter_admitted, List.filter_append, List.filter_append,
      List.filter_cons_of_neg (by simpa using hother)]

/-- The call `POST /auth/login` makes. -/
def login_call (client_host : String) (now : ℚ) : RateLimitCall := ⟨some client_host, "login", now⟩

/-- A minute later to the second, the next login is accepted. -/
theorem login_after_a_minute :
    rate_limit_answer 1 [login_call "10.0.0.7" 0, login_call "10.0.0.7" 59] (login_call "10.0.0.7" 60) = .ok () :=
  ((throttled_by_key (by decide) (by decide)).2.1
    [login_call "10.0.0.7" 0, login_call "10.0.0.7" 59] (login_call "10.0.0.7" 60) [] rfl).trans (by decide +kernel)

/-- The first call has another prefix and another host, and uses up the bound of the second. -/
theorem joined_keys_collide :
    let first : RateLimitCall := ⟨some "db8::1", "login:2001", 0⟩
    let second : RateLimitCall := ⟨some "2001:db8::1", "login", 0⟩
    first.key_prefix ≠ second.key_prefix ∧ first.host ≠ second.host ∧
      rate_limit_answer 1 [first] second = .error TOO_MANY_REQUESTS ∧ rate_limit_answer 1 [] second = .ok () := by
  decide +kernel

end sigis
