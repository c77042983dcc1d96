import Sigis.Lib.Serial
import Sigis.Missions.Cancellation

open guarded relational transactional transition

namespace sigis

/-- The mission as it was read, or approved since. -/
def MissionModel.Stands (m m' : MissionModel) : Prop :=
  m' = m ∨ (m.status = .DRAFT ∧ m' = { m with status := .PLANNED })

/-- The mission was read without a record of cancellation, and cancelled since. -/
structure MissionModel.Struck (m m' : MissionModel) : Prop where
  unrecorded : m.cancellation = (none, none, none)
  cancelled : ∃ reason time user, m' = { m with
    status := .CANCELLED
    cancellation_reason := some reason
    cancelled_at := some (datetime.stored time)
    cancelled_by_user_id := some user }

section columns

variable {m m' : MissionModel} {reason : String} {now : Int} {user : UUID}

/-- An approval writes the status only, over whatever the row has become. -/
theorem MissionModel.flush_approved (hdraft : m.status = .DRAFT) (current : MissionModel) :
    MissionModel.flush m (apply_mission_to_row { mission_to_domain m with status := .PLANNED } m) current =
      { current with status := .PLANNED } := by
  have hstatus : column m.status .PLANNED current.status = .PLANNED := column_changed (by rw [hdraft]; decide)
  simp [MissionModel.flush, apply_mission_to_row, mission_to_domain, hstatus]

/-- A cancellation writes the four columns it changes, over whatever the row has become. -/
theorem MissionModel.flush_cancelled (m current : MissionModel) (reason : String) (now : Int) (user : UUID) :
    MissionModel.flush m (apply_mission_to_row
        ((mission_to_domain m).cancelled reason (datetime.utc now) user) m) current =
      { current with
        status := column m.status .CANCELLED current.status
        cancellation_reason := column m.cancellation_reason (some reason) current.cancellation_reason
        cancelled_at := bound_column (Option.map datetime.stored) m.cancelled_at
          (some (datetime.utc now)) current.cancelled_at
        cancelled_by_user_id := column m.cancelled_by_user_id (some user) current.cancelled_by_user_id } := by
  simp [MissionModel.flush, apply_mission_to_row, mission_to_domain, Mission.cancelled]

theorem MissionModel.assigned_cancelled (m : MissionModel) (reason : String) (now : Int) (user : UUID) :
    m.assigned ((mission_to_domain m).cancelled reason (datetime.utc now) user) =
      { m with
        status := .CANCELLED
        cancellation_reason := some reason
        cancelled_at := bound_column (Option.map datetime.stored) m.cancelled_at
          (some (datetime.utc now)) m.cancelled_at
        cancelled_by_user_id := some user } := by
  rw [MissionModel.assigned, MissionModel.flush_cancelled]
  simp

/-- A reading of the clock is never what a column held before. -/
theorem bound_column_of_stored (time : datetime) :
    bound_column (Option.map datetime.stored) (some time.stored) (some (datetime.utc now)) (some time.stored) =
      some (datetime.utc now).stored := by
  refine bound_column_changed ?_
  intro h
  cases congrArg datetime.utcoffset (Option.some.inj h)

/-- A mission read without a record is cancelled alike over its cancellations since. -/
theorem MissionModel.Struck.flush_cancelled (h : m.Struck m') :
    MissionModel.flush m (apply_mission_to_row
        ((mission_to_domain m).cancelled reason (datetime.utc now) user) m) m' =
      m'.assigned ((mission_to_domain m').cancelled reason (datetime.utc now) user) := by
  obtain ⟨hnone, reason', time', user', rfl⟩ := h
  simp only [MissionModel.cancellation, Prod.mk.injEq] at hnone
  obtain ⟨hreason, htime, huser⟩ := hnone
  rw [MissionModel.flush_cancelled, MissionModel.assigned_cancelled, hreason, htime, huser]
  have hstatus : column m.status MissionStatus.CANCELLED MissionStatus.CANCELLED = .CANCELLED := by
    unfold column
    split <;> rfl
  rw [bound_column_of_stored, bound_column_changed (Option.some_ne_none _),
    column_changed (Option.some_ne_none _), column_changed (Option.some_ne_none _), hstatus]
  rfl

/-- A mission that stands is cancelled as the one that was read. -/
theorem MissionModel.Stands.flush_cancelled (h : m.Stands m') :
    MissionModel.flush m (apply_mission_to_row
        ((mission_to_domain m).cancelled reason (datetime.utc now) user) m) m' =
      m'.assigned ((mission_to_domain m').cancelled reason (datetime.utc now) user) := by
  rcases h with rfl | ⟨hdraft, rfl⟩
  · rfl
  · have hstatus : column m.status MissionStatus.CANCELLED MissionStatus.PLANNED = .CANCELLED :=
      column_changed (by rw [hdraft]; decide)
    rw [MissionModel.flush_cancelled, MissionModel.assigned_cancelled, hstatus]
    simp

/-- A mission without a record is struck by its cancellation, and stays so. -/
theorem MissionModel.struck_of_assigned (hnone : m.cancellation = (none, none, none))
    (h : m.Stands m' ∨ m.Struck m') :
    m.Struck (m'.assigned ((mission_to_domain m').cancelled reason (datetime.utc now) user)) := by
  refine ⟨hnone, reason, datetime.utc now, user, ?_⟩
  rw [MissionModel.assigned_cancelled]
  simp only [MissionModel.cancellation, Prod.mk.injEq] at hnone
  obtain ⟨-, htime, -⟩ := hnone
  rcases h with (rfl | ⟨-, rfl⟩) | ⟨-, reason', time', user', rfl⟩
  · rw [htime, bound_column_changed (Option.some_ne_none _)]
    rfl
  · rw [htime, bound_column_changed (Option.some_ne_none _)]
    rfl
  · rw [bound_column_of_stored]

end columns

section requests

variable {F : Type}

/-- The request closes the mission: it cancels it, or moves it to another inspector. -/
inductive Request.Closes (mission_id : UUID) : Request F → Prop
  | cancel_mission {cmd : CancelMissionCommand} : cmd.mission_id = mission_id →
      Request.Closes mission_id (.cancel_mission cmd)
  | reassign_inspector {cmd : ReassignInspectorCommand} : cmd.mission_id = mission_id →
      Request.Closes mission_id (.reassign_inspector cmd)

/-- The request moves the mission to another inspector. -/
inductive Request.Reassigns (mission_id : UUID) : Request F → Prop
  | reassign_inspector {cmd : ReassignInspectorCommand} : cmd.mission_id = mission_id →
      Request.Reassigns mission_id (.reassign_inspector cmd)

/-- The request approves, cancels or reassigns a mission. -/
inductive Request.Workflow : Request F → Prop
  | approve_mission {cmd : ApproveMissionCommand} : Request.Workflow (.approve_mission cmd)
  | cancel_mission {cmd : CancelMissionCommand} : Request.Workflow (.cancel_mission cmd)
  | reassign_inspector {cmd : ReassignInspectorCommand} : Request.Workflow (.reassign_inspector cmd)

/-- The mission a request of the workflow is about. -/
inductive Request.OnMission (mission_id : UUID) : Request F → Prop
  | approve_mission {cmd : ApproveMissionCommand} : cmd.mission_id = mission_id →
      Request.OnMission mission_id (.approve_mission cmd)
  | closes {request : Request F} : request.Closes mission_id → Request.OnMission mission_id request

theorem Request.Workflow.not_names_status {request : Request F} (h : request.Workflow) (id : UUID) :
    ¬ request.NamesStatus id := by
  intro hnames
  cases hnames
  cases h

/-- Another request spoils what a request read of its mission by closing the mission;
except what a cancellation read of a mission without record. -/
def Call.SpoiledBy (call : Call F) (s : Store F) (other : Call F) : Prop :=
  ∃ id, call.request.OnMission id ∧ other.request.Closes id ∧
    ¬ (call.request.Cancels id ∧ ∀ m, s.missions.get id = some m → m.cancellation = (none, none, none))

/-- What a request computed from the store `s` still stands in `t`. -/
structure Call.Current (call : Call F) (s t : Store F) : Prop where
  drawn : s.missions.get call.env.mission_id = none
  users : t.users = s.users
  mission : ∀ id m, call.request.OnMission id → s.missions.get id = some m →
    ∃ m', t.missions.get id = some m' ∧ (m.Stands m' ∨ (call.request.Cancels id ∧ m.Struck m'))

variable [LinearOrder F] [NatCast F]

/-- The request is served: it returns, or it is an approval and raises. -/
def Call.Replayed (w : World F) (s : Store F) (call : Call F) (t : Store F) : Prop :=
  s.missions.get call.env.mission_id = none ∧ ((∃ r, exec w call s = (.ok r, t)) ∨
    ((∃ cmd, call.request = .approve_mission cmd) ∧ (∃ e, exec w call s = (.error e, s)) ∧ t = s))

variable {w : World F} {call other : Call F} {s t u : Store F} {r : Response F} {id : UUID}
  {m m' : MissionModel}

/-- A served request has one of the listed outcomes, or has left the store as it was. -/
theorem Call.Replayed.outcome (h : call.Replayed w s t) : t = s ∨ ∃ r, Outcome w call s r t := by
  obtain ⟨hnew, ⟨r, hexec⟩ | ⟨-, -, rfl⟩⟩ := h
  · exact Or.inr ⟨r, outcome_of_exec_new hnew hexec⟩
  · exact Or.inl rfl

/-- No request writes to the users. -/
theorem Outcome.users (h : Outcome w call s r t) : t.users = s.users := by
  cases h with
  | check_in h | confirm_host h | check_out h => rw [h.frame]
  | _ => rfl

/-- The commit of one request leaves current what another one read, unless it spoils it. -/
theorem Call.Current.kept (h : call.Current s t) (hworkflow : other.request.Workflow)
    (hspares : ¬ call.SpoiledBy s other) (hreplayed : other.Replayed w t u) : call.Current s u := by
  rcases hreplayed.outcome with rfl | ⟨r, houtcome⟩
  · exact h
  refine ⟨h.drawn, houtcome.users.trans h.users, ?_⟩
  intro id m hon hm
  obtain ⟨m', hm', hstands⟩ := h.mission id m hon hm
  obtain ⟨m'', hm'', -⟩ := houtcome.mission_evolves hm'
  refine ⟨m'', hm'', ?_⟩
  -- Unless the commit spoils the read, a closed mission was read by a cancellation, without record.
  have hclosed (hcloses : other.request.Closes id) :
      call.request.Cancels id ∧ m.cancellation = (none, none, none) := by
    by_contra hneither
    refine hspares ⟨id, hon, hcloses, fun hcancels => hneither ⟨hcancels.1, hcancels.2 m hm⟩⟩
  cases houtcome.leaves hm'' with
  | kept hkept =>
    cases hm'.symm.trans hkept
    exact hstands
  | created hnone => cases hm'.symm.trans hnone
  | @assigned old mission hold hassigns =>
    cases hm'.symm.trans hold
    have hid : m'.id = id := Table.key_of_get hm'
    have hboth : m.Stands m' ∨ m.Struck m' := hstands.imp_right And.right
    cases hassigns with
    | approve_mission _ hdraft =>
      rcases hboth with (rfl | ⟨-, rfl⟩) | ⟨-, reason, time, user, rfl⟩
      · exact Or.inl (Or.inr ⟨hdraft, MissionModel.flush_approved hdraft m'⟩)
      · cases hdraft
      · cases hdraft
    | cancel_mission hon' =>
      obtain ⟨hcancels, hnone⟩ := hclosed (.cancel_mission (hon'.trans hid))
      exact Or.inr ⟨hcancels, MissionModel.struck_of_assigned hnone hboth⟩
    | reassign_inspector hon' =>
      obtain ⟨hcancels, hnone⟩ := hclosed (.reassign_inspector (hon'.trans hid))
      exact Or.inr ⟨hcancels, MissionModel.struck_of_assigned hnone hboth⟩
    | update_mission => cases hworkflow

omit [NatCast F] in
/-- A flush prepared from another state of the row replaces the row as it now is. -/
theorem Store.commit_update_mission_over {loaded written current : MissionModel} {rest : List (Write F)}
    (h : t.missions.get loaded.id = some current) :
    t.commit (.update_mission loaded written :: rest) = some u ↔
      ∃ rows, Table.Replaces t.missions current (MissionModel.flush loaded written current) rows ∧
        Store.commit { t with missions := rows } rest = some u := by
  simp only [Store.commit_cons_eq_some_iff, Write.apply, Option.map_eq_some_iff,
    exists_exists_and_eq_and, Table.update_eq_some_iff_replaces (MissionModel.keeps_flush loaded written) h]

section sound

variable {env : Env} {answer : Response F} {writes : List (Write F)}

/-- An approval prepared from what still stands leaves what approving now leaves, if only
nothing more. -/
theorem ApproveMission.replayed {cmd : ApproveMissionCommand}
    (hnew : t.missions.get env.mission_id = none)
    (hcurrent : Call.Current ⟨.approve_mission cmd, env⟩ s t)
    (hprepare : Call.prepare w ⟨.approve_mission cmd, env⟩ s = .ok (answer, writes))
    (hcommit : t.commit writes = some u) : Call.Replayed w t ⟨.approve_mission cmd, env⟩ u := by
  obtain ⟨_, hexecute, -⟩ := map_payload_eq_ok_iff.mp hprepare
  obtain ⟨m, hm, hdraft, rfl, rfl⟩ := ApproveMission.execute_eq_ok_iff.mp hexecute
  obtain ⟨m', hm', hstands⟩ := hcurrent.mission cmd.mission_id m (.approve_mission rfl) hm
  have hid : m.id = cmd.mission_id := Table.key_of_get hm
  obtain ⟨rows, hrows, hnil⟩ := (Store.commit_update_mission_over (hid ▸ hm')).mp hcommit
  rw [MissionModel.flush_approved hdraft] at hrows
  cases hnil
  refine ⟨hnew, ?_⟩
  rcases hstands with (rfl | ⟨-, rfl⟩) | ⟨hcancels, -⟩
  · have houtcome : Outcome w ⟨.approve_mission cmd, env⟩ t _ { t with missions := rows } :=
      .approve_mission hm' hdraft (by rwa [MissionModel.assigned, MissionModel.flush_approved hdraft])
    exact Or.inl ⟨_, houtcome.exec_new hnew⟩
  · -- Approved in between: the second approval would raise, and the flush changes nothing.
    have hsame : rows = t.missions := hrows.eq_of_self
    subst hsame
    refine Or.inr ⟨⟨cmd, rfl⟩, ?_, rfl⟩
    cases hexec : exec w ⟨.approve_mission cmd, env⟩ t with
    | mk result v =>
      cases result with
      | ok r =>
        cases outcome_of_exec_new hnew hexec with
        | approve_mission hget hstatus =>
          cases hm'.symm.trans hget
          cases hstatus
        | replayed hkey => cases hkey
      | error e =>
        cases store_of_exec_eq_error hexec
        exact ⟨e, rfl⟩
  · cases hcancels

/-- A cancellation prepared from what still stands leaves what cancelling now leaves. -/
theorem CancelMission.replayed {cmd : CancelMissionCommand}
    (hnew : t.missions.get env.mission_id = none)
    (hcurrent : Call.Current ⟨.cancel_mission cmd, env⟩ s t)
    (hprepare : Call.prepare w ⟨.cancel_mission cmd, env⟩ s = .ok (answer, writes))
    (hcommit : t.commit writes = some u) : Call.Replayed w t ⟨.cancel_mission cmd, env⟩ u := by
  obtain ⟨_, hexecute, -⟩ := map_payload_eq_ok_iff.mp hprepare
  obtain ⟨m, hm, hopen, rfl, rfl⟩ := CancelMission.execute_eq_ok_iff.mp hexecute
  obtain ⟨m', hm', hstands⟩ := hcurrent.mission cmd.mission_id m (.closes (.cancel_mission rfl)) hm
  have hid : m.id = cmd.mission_id := Table.key_of_get hm
  obtain ⟨rows, hrows, hnil⟩ := (Store.commit_update_mission_over (hid ▸ hm')).mp hcommit
  cases hnil
  have hopen' : m'.status ≠ .COMPLETED := by
    rcases hstands with (rfl | ⟨-, rfl⟩) | ⟨-, -, reason, time, user, rfl⟩
    · exact hopen
    · exact show MissionStatus.PLANNED ≠ .COMPLETED by decide
    · exact show MissionStatus.CANCELLED ≠ .COMPLETED by decide
  have hflush : MissionModel.flush m (apply_mission_to_row ((mission_to_domain m).cancelled
      (slice_to 4000 cmd.reason) (datetime.utc env.now) cmd.cancelled_by_user_id) m) m' =
        m'.assigned ((mission_to_domain m').cancelled (slice_to 4000 cmd.reason) (datetime.utc env.now)
          cmd.cancelled_by_user_id) := by
    rcases hstands with hstands | ⟨-, hstruck⟩
    · exact hstands.flush_cancelled
    · exact hstruck.flush_cancelled
  rw [hflush] at hrows
  have houtcome : Outcome w ⟨.cancel_mission cmd, env⟩ t _ { t with missions := rows } :=
    .cancel_mission hm' hopen' rfl hrows
  exact ⟨hnew, Or.inl ⟨_, houtcome.exec_new hnew⟩⟩

/-- A reassignment prepared from what still stands leaves what reassigning now leaves. -/
theorem ReassignInspector.replayed {cmd : ReassignInspectorCommand}
    (hnew : t.missions.get env.mission_id = none)
    (hcurrent : Call.Current ⟨.reassign_inspector cmd, env⟩ s t)
    (hprepare : Call.prepare w ⟨.reassign_inspector cmd, env⟩ s = .ok (answer, writes))
    (hcommit : t.commit writes = some u) : Call.Replayed w t ⟨.reassign_inspector cmd, env⟩ u := by
  obtain ⟨_, hexecute, -⟩ := map_payload_eq_ok_iff.mp hprepare
  obtain ⟨m, user, hm, hopen, huser, rfl, rfl⟩ :=
    (ReassignInspector.execute_eq_ok_iff hcurrent.drawn).mp hexecute
  obtain ⟨m', hm', hstands⟩ := hcurrent.mission cmd.mission_id m (.closes (.reassign_inspector rfl)) hm
  have hid : m.id = cmd.mission_id := Table.key_of_get hm
  obtain ⟨rows, hrows, hrest⟩ := (Store.commit_update_mission_over (hid ▸ hm')).mp hcommit
  obtain ⟨rows', hrows', hnil⟩ := Store.commit_add_mission.mp hrest
  cases hnil
  have hstands' : m.Stands m' := by
    rcases hstands with hstands | ⟨hcancels, -⟩
    · exact hstands
    · cases hcancels
  rw [ReassignInspector.replaced, hstands'.flush_cancelled] at hrows
  have hclone : ReassignInspector.clone env cmd (mission_to_domain m) =
      ReassignInspector.clone env cmd (mission_to_domain m') := by
    rcases hstands' with rfl | ⟨-, rfl⟩ <;> rfl
  rw [hclone] at hrows'
  have hopen' : ¬ (m'.status = .COMPLETED ∨ m'.status = .CANCELLED) := by
    rcases hstands' with rfl | ⟨-, rfl⟩
    · exact hopen
    · simp
  have huser' : UserAuthRepositoryImpl.get_by_id t cmd.new_inspector_id = .ok user := by
    rw [UserAuthRepositoryImpl.get_by_id, hcurrent.users]
    exact huser
  have houtcome : Outcome w ⟨.reassign_inspector cmd, env⟩ t _ { t with missions := rows' } :=
    .reassign_inspector hm' hopen' huser' hrows hrows'
  exact ⟨hnew, Or.inl ⟨_, houtcome.exec_new hnew⟩⟩

end sound

section closed

/-- The mission is cancelled. -/
def Store.Cancelled (s : Store F) (id : UUID) : Prop :=
  ∃ m, s.missions.get id = some m ∧ m.status = .CANCELLED

theorem Outcome.keeps_cancelled (h : Outcome w call s r t) (hnames : ¬ call.request.NamesStatus id)
    (hs : s.Cancelled id) : t.Cancelled id := by
  obtain ⟨m, hm, hcancelled⟩ := hs
  obtain ⟨m', hm', -⟩ := h.mission_evolves hm
  exact ⟨m', hm', (((h.cancellation_kept hm hm').2 hcancelled).1).resolve_right hnames⟩

theorem Call.Replayed.keeps_cancelled (h : call.Replayed w s t) (hworkflow : call.request.Workflow)
    (hs : s.Cancelled id) : t.Cancelled id := by
  rcases h.outcome with rfl | ⟨r, houtcome⟩
  · exact hs
  · exact houtcome.keeps_cancelled (hworkflow.not_names_status id) hs

/-- A closing request that is served leaves its mission cancelled. -/
theorem Call.Replayed.cancelled (h : call.Replayed w s t) (hcloses : call.request.Closes id) :
    t.Cancelled id := by
  obtain ⟨hnew, ⟨r, hexec⟩ | ⟨⟨cmd, happroves⟩, -⟩⟩ := h
  · have houtcome := outcome_of_exec_new hnew hexec
    obtain ⟨request, env⟩ := call
    cases hcloses with
    | cancel_mission hid =>
      cases houtcome with
      | @cancel_mission cmd env s m mission missions hget _ hmission hrows =>
        have hkey : m.id = id := (Table.key_of_get hget).trans hid
        subst hmission
        have hself : missions.get m.id = some _ := hrows.get_self
        rw [hkey] at hself
        exact ⟨_, hself, MissionModel.status_assigned _ _⟩
      | replayed hkey => cases hkey
    | reassign_inspector hid =>
      cases houtcome with
      | @reassign_inspector cmd env s m user cancelled missions hget _ _ hrows hrows' =>
        have hkey : m.id = id := (Table.key_of_get hget).trans hid
        have hself : cancelled.get m.id = some _ := hrows.get_self
        rw [hkey] at hself
        exact ⟨_, Table.get_insert_of_some hrows' hself, MissionModel.status_assigned _ _⟩
      | replayed hkey => cases hkey
  · rw [happroves] at hcloses
    cases hcloses

/-- A cancelled mission is not reassigned. -/
theorem Call.Replayed.not_cancelled (h : call.Replayed w s t) (hreassigns : call.request.Reassigns id) :
    ¬ s.Cancelled id := by
  rintro ⟨m, hm, hcancelled⟩
  obtain ⟨hnew, ⟨r, hexec⟩ | ⟨⟨cmd, happroves⟩, -⟩⟩ := h
  · have houtcome := outcome_of_exec_new hnew hexec
    obtain ⟨request, env⟩ := call
    cases hreassigns with
    | reassign_inspector hid =>
      subst hid
      cases houtcome with
      | reassign_inspector hget hopen =>
        cases hm.symm.trans hget
        exact hopen (Or.inr hcancelled)
      | replayed hkey => cases hkey
  · rw [happroves] at hreassigns
    cases hreassigns

/-- Cancelling a mission that is not completed, alone, leaves it cancelled. -/
theorem Store.cancelled_of_served {cmd : CancelMissionCommand} {env : Env}
    (h : Served w s ⟨.cancel_mission cmd, env⟩ t) (hm : s.missions.get cmd.mission_id = some m)
    (hopen : m.status ≠ .COMPLETED) : t.Cancelled cmd.mission_id := by
  obtain ⟨rows, hrows⟩ := Table.exists_replaces (MissionModel.keeps_flush m (apply_mission_to_row
    ((mission_to_domain m).cancelled (slice_to 4000 cmd.reason) (datetime.utc env.now)
      cmd.cancelled_by_user_id) m)) (Table.mem_of_get hm)
  have houtcome : Outcome w ⟨.cancel_mission cmd, env⟩ s _ { s with missions := rows } :=
    .cancel_mission hm hopen rfl hrows
  have hreplayed : Call.Replayed w s ⟨.cancel_mission cmd, env⟩ { s with missions := rows } :=
    ⟨h.1.mission_id, Or.inl ⟨_, houtcome.exec h.1⟩⟩
  have ht := h.2
  rw [houtcome.exec h.1] at ht
  subst ht
  exact hreplayed.cancelled (.cancel_mission rfl)

end closed

end requests

section interleavings

variable {F : Type} [LinearOrder F] [NatCast F] {w : World F} {ι : Type} {request : ι → Call F}
  {s₀ s t : Store F} {order : List ι} {i j : ι} {id : UUID}

/-- Requests of the workflow, each with an identifier of its own, can be served in the
order of their commits as long as none is spoiled. -/
theorem workflow_serialises (hworkflow : ∀ i, (request i).request.Workflow)
    (hdistinct : ∀ i j, i ≠ j → (request i).env.mission_id ≠ (request j).env.mission_id) :
    Serialises (database w) request (fun s i t => (request i).Replayed w s t)
      (fun i s => s.missions.get (request i).env.mission_id = none)
      (fun i s t => (request i).Current s t) (fun i s j => (request i).SpoiledBy s (request j)) where
  read hnew _ := ⟨hnew, rfl, fun _ m _ hm => ⟨m, hm, Or.inl (Or.inl rfl)⟩⟩
  sound := by
    intro i s t u answer writes hnew hcurrent hprepare hcommit
    have hi := hworkflow i
    change (request i).prepare w s = _ at hprepare
    generalize request i = call at hi hnew hcurrent hprepare ⊢
    obtain ⟨kind, env⟩ := call
    cases hi with
    | approve_mission => exact ApproveMission.replayed hnew hcurrent hprepare hcommit
    | cancel_mission => exact CancelMission.replayed hnew hcurrent hprepare hcommit
    | reassign_inspector => exact ReassignInspector.replayed hnew hcurrent hprepare hcommit
  fresh_kept := by
    intro i j t u hne hi _ hreplayed
    rcases hreplayed.outcome with rfl | ⟨r, houtcome⟩
    · exact hi
    cases hm : u.missions.get (request i).env.mission_id with
    | none => rfl
    | some m =>
      have hkey := Table.key_of_get hm
      cases houtcome.leaves hm with
      | kept hkept => cases hi.symm.trans hkept
      | assigned hold => cases hi.symm.trans hold
      | created _ hcreates =>
        have hid : (request j).env.mission_id = (request i).env.mission_id := by
          rw [← hkey]
          generalize request j = call at hcreates
          cases hcreates <;> rfl
        exact absurd hid.symm (hdistinct i j hne)
  current_kept hcurrent hspares _ hreplayed := hcurrent.kept (hworkflow _) hspares hreplayed

/-- Once a mission is closed it stays cancelled, and is never reassigned after. -/
theorem closed_for_good (hworkflow : ∀ i, (request i).request.Workflow)
    (hserved : Execution (fun s i t => (request i).Replayed w s t) s order t) (hs : s.Cancelled id) :
    t.Cancelled id ∧ ∀ j ∈ order, ¬ (request j).request.Reassigns id := by
  refine ⟨?_, ?_⟩
  · exact hserved.invariant (fun s => s.Cancelled id)
      (fun hx hreplayed => hreplayed.keeps_cancelled (hworkflow _) hx) hs
  · intro j hj hreassigns
    obtain ⟨before, after, rfl⟩ := List.append_of_mem hj
    obtain ⟨x, y, hbefore, hreplayed, -⟩ := hserved.exists_split
    refine hreplayed.not_cancelled hreassigns (hbefore.invariant (fun s => s.Cancelled id) ?_ hs)
    exact fun hx hreplayed => hreplayed.keeps_cancelled (hworkflow _) hx

variable [DecidableEq ι] {labels : List (Event ι)}
  {c : Config (Store F) ι (Response F) (List (Write F)) Error}

/-- Approvals, cancellations and reassignments running side by side, each drawing an
identifier of its own. Unless one of them commits over a cancellation or a reassignment of
its mission that committed since it read it (a cancellation that read the mission without
record may), the store is what serving the committed ones leaves, in the order of their
commits; every mission they closed ends cancelled, and none is reassigned twice. -/
theorem workflow_serialisable (hworkflow : ∀ i, (request i).request.Workflow)
    (hdrawn : ∀ i, s₀.missions.get (request i).env.mission_id = none)
    (hdistinct : ∀ i j, i ≠ j → (request i).env.mission_id ≠ (request j).env.mission_id)
    (hrun : Execution (Step (database w) request) (Config.start s₀) labels c)
    (hspared : Spared (database w) request (fun i s j => (request i).SpoiledBy s (request j)) s₀ labels) :
    Execution (fun s i t => (request i).Replayed w s t) s₀ (committed labels) c.store ∧
      (∀ i, i ∈ committed labels ↔ ∃ answer writes, c.phase i = .answered answer writes) ∧
      (∀ i id, i ∈ committed labels → (request i).request.Closes id →
        ∃ m, c.store.missions.get id = some m ∧ m.status = .CANCELLED) ∧
      ∀ i j id, i ∈ committed labels → j ∈ committed labels → (request i).request.Reassigns id →
        (request j).request.Reassigns id → i = j := by
  have hserved := (workflow_serialises hworkflow hdistinct).served hdrawn hrun hspared
  have hclosed : ∀ {i id before after}, committed labels = before ++ i :: after →
      (request i).request.Closes id →
        c.store.Cancelled id ∧ ∀ j ∈ after, ¬ (request j).request.Reassigns id := by
    intro i id before after hlabels hcloses
    rw [hlabels] at hserved
    obtain ⟨x, y, -, hreplayed, hafter⟩ := hserved.exists_split
    exact closed_for_good hworkflow hafter (hreplayed.cancelled hcloses)
  have hreassigns_closes : ∀ {i id}, (request i).request.Reassigns id → (request i).request.Closes id := by
    intro i id hreassigns
    generalize (request i).request = kind at hreassigns
    cases hreassigns with
    | reassign_inspector hid => exact .reassign_inspector hid
  refine ⟨hserved, fun i => mem_committed_iff hrun, ?_, ?_⟩
  · intro i id hi hcloses
    obtain ⟨before, after, hlabels⟩ := List.append_of_mem hi
    exact (hclosed hlabels hcloses).1
  · intro i j id hi hj hri hrj
    obtain ⟨before, after, hlabels⟩ := List.append_of_mem hi
    rw [hlabels, List.mem_append, List.mem_cons] at hj
    rcases hj with hj | rfl | hj
    · obtain ⟨first, rest, rfl⟩ := List.append_of_mem hj
      have hlabels' : committed labels = first ++ j :: (rest ++ i :: after) := by rw [hlabels]; simp
      exact absurd hri ((hclosed hlabels' (hreassigns_closes hrj)).2 i (by simp))
    · rfl
    · exact absurd hrj ((hclosed hlabels (hreassigns_closes hri)).2 j hj)

end interleavings

namespace pilot

def approve : ApproveMissionCommand where
  mission_id := ⟨"mission"⟩
  approver_user_id := ⟨"supervisor"⟩

/-- An approval and a cancellation of the pilot mission. -/
noncomputable def rivals : Bool → Call ℝ
  | false => ⟨.approve_mission approve, surroundings "1" 5⟩
  | true => ⟨.cancel_mission cancel, surroundings "2" 5⟩

def cancelled_draft : MissionModel := { cancelled_mission with requires_approval := true }

noncomputable def struck_draft : Store ℝ :=
  { opened with missions := ⟨[cancelled_draft], List.pairwise_singleton _ _⟩ }

/-- The mission after both commits: planned, with the record of its cancellation. -/
def revived_draft : MissionModel := { cancelled_draft with status := .PLANNED }

noncomputable def revived : Store ℝ :=
  { opened with missions := ⟨[revived_draft], List.pairwise_singleton _ _⟩ }

/-- What the approval writes. -/
def approval : List (Write ℝ) :=
  [.update_mission draft (apply_mission_to_row { mission_to_domain draft with status := .PLANNED } draft)]

/-- What the cancellation writes. -/
def cancellation : List (Write ℝ) :=
  [.update_mission draft (apply_mission_to_row ((mission_to_domain draft).cancelled
    (slice_to 4000 cancel.reason) (datetime.utc 5) cancel.cancelled_by_user_id) draft)]

theorem prepare_rivals : ∃ mission mission',
    (database world).prepare (rivals false) drafted = .ok (.mission mission, approval) ∧
    (database world).prepare (rivals true) drafted = .ok (.mission mission', cancellation) := by
  have happrove : ApproveMission.execute approve drafted = .ok (_, approval) :=
    ApproveMission.execute_eq_ok_iff.mpr ⟨draft, rfl, rfl, rfl, rfl⟩
  have hcancel : CancelMission.execute (surroundings "2" 5) cancel drafted = .ok (_, cancellation) :=
    CancelMission.execute_eq_ok_iff.mpr ⟨draft, rfl, by decide, rfl, rfl⟩
  exact ⟨_, _, map_payload_eq_ok_iff.mpr ⟨_, happrove, rfl⟩, map_payload_eq_ok_iff.mpr ⟨_, hcancel, rfl⟩⟩

/-- Both read the draft; the cancellation commits, then the approval. -/
theorem execution_rivals : ∃ c,
    Execution (Step (database world) rivals) (Config.start drafted)
      [.read false, .read true, .commit true, .commit false] c ∧ c.store = revived ∧
    ∀ i, ∃ answer writes, c.phase i = .answered answer writes := by
  obtain ⟨_, _, happrove, hcancel⟩ := prepare_rivals
  have hfirst : drafted.commit cancellation = some struck_draft := by
    refine (Store.commit_update_mission_over rfl).mpr ⟨struck_draft.missions, ?_, rfl⟩
    exact ⟨List.mem_singleton.mpr rfl, rfl, by decide⟩
  have hsecond : struck_draft.commit approval = some revived := by
    refine (Store.commit_update_mission_over rfl).mpr ⟨revived.missions, ?_, rfl⟩
    exact ⟨List.mem_singleton.mpr rfl, rfl, by decide⟩
  have hread : Execution (Step (database world) rivals) (Config.start drafted) [.read false] _ :=
    .single (.read_ok rfl happrove)
  have hreads := hread.snoc (Step.read_ok rfl hcancel)
  have hcommit := hreads.snoc (Step.commit (i := true) rfl hfirst)
  refine ⟨_, hcommit.snoc (Step.commit (i := false) rfl hsecond), rfl, ?_⟩
  exact Bool.forall_bool.mpr ⟨⟨_, _, rfl⟩, _, _, rfl⟩

/-- Both read the draft; the approval commits, then the cancellation. -/
theorem execution_rivals_in_order : ∃ c,
    Execution (Step (database world) rivals) (Config.start drafted)
      [.read false, .read true, .commit false, .commit true] c := by
  obtain ⟨_, _, happrove, hcancel⟩ := prepare_rivals
  have hfirst : drafted.commit approval = some patched := by
    refine (Store.commit_update_mission_over rfl).mpr ⟨patched.missions, ?_, rfl⟩
    exact ⟨List.mem_singleton.mpr rfl, rfl, by decide⟩
  have hsecond : patched.commit cancellation = some struck_draft := by
    refine (Store.commit_update_mission_over rfl).mpr ⟨struck_draft.missions, ?_, rfl⟩
    exact ⟨List.mem_singleton.mpr rfl, rfl, by decide⟩
  have hread : Execution (Step (database world) rivals) (Config.start drafted) [.read false] _ :=
    .single (.read_ok rfl happrove)
  have hreads := hread.snoc (Step.read_ok rfl hcancel)
  have hcommit := hreads.snoc (Step.commit (i := false) rfl hfirst)
  exact ⟨_, hcommit.snoc (Step.commit (i := true) rfl hsecond)⟩

theorem workflow_rivals (i : Bool) : (rivals i).request.Workflow := by
  cases i
  · exact .approve_mission
  · exact .cancel_mission

/-- The approval commits first: nothing it read is spoiled, and nothing it does spoils. -/
theorem spared_rivals : Spared (database world) rivals (fun i s j => (rivals i).SpoiledBy s (rivals j))
    drafted [.read false, .read true, .commit false, .commit true] := by
  rintro i j before d after hlabels - ⟨id, -, hcloses, -⟩ hsublist
  cases j with
  | false => cases hcloses
  | true =>
    have hafter : ([Event.commit true, .commit i].Sublist
        [.read false, .read true, .commit false, .commit true]) := by
      rw [hlabels]
      exact (hsublist.trans (List.sublist_cons_self _ _)).trans (List.sublist_append_right _ _)
    have horder : [true, i].Sublist [false, true] := hafter.filterMap Event.committed
    revert horder
    cases i <;> decide

/-- One after the other, in either order, they leave the mission cancelled. -/
theorem cancelled_of_rivals {env env' : Env} {s t : Store ℝ}
    (h : (Served world drafted ⟨.approve_mission approve, env⟩ s ∧
        Served world s ⟨.cancel_mission cancel, env'⟩ t) ∨
      (Served world drafted ⟨.cancel_mission cancel, env'⟩ s ∧
        Served world s ⟨.approve_mission approve, env⟩ t)) : t.Cancelled ⟨"mission"⟩ := by
  have hdraft : drafted.missions.get approve.mission_id = some draft := rfl
  rcases h with ⟨happrove, hcancel⟩ | ⟨hcancel, happrove⟩
  · rcases happrove.outcome with rfl | ⟨r, houtcome⟩
    · exact Store.cancelled_of_served hcancel hdraft (by decide)
    · cases houtcome with
      | @approve_mission _ _ _ m missions hget _ hrows =>
        cases hdraft.symm.trans hget
        refine Store.cancelled_of_served hcancel hrows.get_self ?_
        rw [MissionModel.status_assigned]
        exact show MissionStatus.PLANNED ≠ .COMPLETED by decide
      | replayed hkey => cases hkey
  · have hcancelled : s.Cancelled ⟨"mission"⟩ := Store.cancelled_of_served hcancel hdraft (by decide)
    rcases happrove.outcome with rfl | ⟨r, houtcome⟩
    · exact hcancelled
    · refine houtcome.keeps_cancelled ?_ hcancelled
      intro hnames
      cases hnames

end pilot

/-- An approval and a cancellation both read the draft, and the approval commits last: the
mission is planned, with the record of a cancellation. Served one after the other, in
either order and at whatever times, they leave it cancelled. -/
theorem cancellation_undone :
    (∃ c, Execution (Step (database pilot.world) pilot.rivals) (Config.start pilot.drafted)
        [.read false, .read true, .commit true, .commit false] c ∧
      (∀ i, ∃ answer writes, c.phase i = .answered answer writes) ∧
      c.store.missions.get ⟨"mission"⟩ = some pilot.revived_draft) ∧
    pilot.revived_draft.status = .PLANNED ∧ pilot.revived_draft.RecordsCancellation ∧
    ∀ env env' s t,
      (Served pilot.world pilot.drafted ⟨.approve_mission pilot.approve, env⟩ s ∧
        Served pilot.world s ⟨.cancel_mission pilot.cancel, env'⟩ t) ∨
      (Served pilot.world pilot.drafted ⟨.cancel_mission pilot.cancel, env'⟩ s ∧
        Served pilot.world s ⟨.approve_mission pilot.approve, env⟩ t) →
      ∃ m, t.missions.get ⟨"mission"⟩ = some m ∧ m.status = .CANCELLED := by
  obtain ⟨c, hrun, hstore, hanswered⟩ := pilot.execution_rivals
  refine ⟨⟨c, hrun, hanswered, by rw [hstore]; rfl⟩, rfl, ⟨rfl, rfl, rfl⟩, ?_⟩
  intro env env' s t h
  exact pilot.cancelled_of_rivals h

/-- With the approval first the pilot mission ends cancelled. -/
theorem pilot_rivals_in_order : ∃ c,
    Execution (Step (database pilot.world) pilot.rivals) (Config.start pilot.drafted)
      [.read false, .read true, .commit false, .commit true] c ∧
    ∃ m, c.store.missions.get ⟨"mission"⟩ = some m ∧ m.status = .CANCELLED := by
  obtain ⟨c, hrun⟩ := pilot.execution_rivals_in_order
  have hdrawn : ∀ i, pilot.drafted.missions.get (pilot.rivals i).env.mission_id = none := by
    intro i
    cases i <;> rfl
  have hdistinct : ∀ i j, i ≠ j → (pilot.rivals i).env.mission_id ≠ (pilot.rivals j).env.mission_id := by
    intro i j hne
    cases i <;> cases j <;> first | exact absurd rfl hne | exact show (⟨_⟩ : UUID) ≠ ⟨_⟩ by decide
  exact ⟨c, hrun, (workflow_serialisable pilot.workflow_rivals hdrawn hdistinct hrun
    pilot.spared_rivals).2.2.1 true _ (by decide) (.cancel_mission rfl)⟩

end sigis
