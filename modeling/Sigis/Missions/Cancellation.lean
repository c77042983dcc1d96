import Sigis.Missions.Approval

open guarded relational transactional transition

namespace sigis

section cases

variable {F : Type}

/-- The mission a request assigns over a stored one. -/
inductive Call.Assigns : Call F → MissionModel → Mission → Prop
  | approve_mission {cmd env m} : cmd.mission_id = m.id → m.status = .DRAFT →
      Call.Assigns ⟨.approve_mission cmd, env⟩ m { mission_to_domain m with status := .PLANNED }
  | cancel_mission {cmd env m} : cmd.mission_id = m.id → m.status ≠ .COMPLETED →
      Call.Assigns ⟨.cancel_mission cmd, env⟩ m ((mission_to_domain m).cancelled (slice_to 4000 cmd.reason)
        (datetime.utc env.now) cmd.cancelled_by_user_id)
  | reassign_inspector {cmd env m} : cmd.mission_id = m.id →
      ¬ (m.status = .COMPLETED ∨ m.status = .CANCELLED) →
      Call.Assigns ⟨.reassign_inspector cmd, env⟩ m (ReassignInspector.replaced env cmd m)
  | update_mission {body env m status} : body.new_status m.status = .ok status →
      Call.Assigns ⟨.update_mission m.id body, env⟩ m (body.apply_to (mission_to_domain m) status)

/-- The mission a request adds. -/
inductive Call.Creates (s : Store F) : Call F → Mission → Prop
  | create_mission {cmd env} :
      Call.Creates s ⟨.create_mission cmd, env⟩ (CreateMission.mission env cmd)
  | reassign_inspector {cmd env m} : s.missions.get cmd.mission_id = some m →
      Call.Creates s ⟨.reassign_inspector cmd, env⟩ (ReassignInspector.clone env cmd (mission_to_domain m))

/-- A mission found after a request was stored before it, was assigned over a stored one
by the request, or was added by it. -/
inductive Call.Leaves (s : Store F) (call : Call F) (id : UUID) : MissionModel → Prop
  | kept {m} : s.missions.get id = some m → Call.Leaves s call id m
  | assigned {m mission} : s.missions.get id = some m → call.Assigns m mission →
      Call.Leaves s call id (m.assigned mission)
  | created {mission} : s.missions.get id = none → call.Creates s mission →
      Call.Leaves s call id (new_mission_row mission call.env.host_token).stored

variable {s : Store F} {call : Call F} {id : UUID} {m m' : MissionModel} {missions : Table MissionModel}

theorem Call.Leaves.of_replaces {mission : Mission}
    (h : Table.Replaces s.missions m (m.assigned mission) missions) (hassigns : call.Assigns m mission)
    (hm' : missions.get id = some m') : call.Leaves s id m' := by
  rw [h.get] at hm'
  split at hm'
  · next hid =>
    cases hm'
    exact .assigned (hid ▸ h.get_old) hassigns
  · exact .kept hm'

theorem Call.Leaves.of_insert {mission : Mission}
    (h : s.missions.insert (new_mission_row mission call.env.host_token).stored = some missions)
    (hcreates : call.Creates s mission) (hm' : missions.get id = some m') : call.Leaves s id m' := by
  rw [Table.get_insert h] at hm'
  split at hm'
  · next hid =>
    cases hm'
    refine .created ?_ hcreates
    rw [← hid, Table.get_eq_none_iff]
    intro a ha hkey
    exact (Table.insert_eq_some_iff.mp h).1 a ha (clash_of_key hkey)
  · exact .kept hm'

variable [LinearOrder F] [NatCast F] {w : World F} {t : Store F} {r : Response F}

theorem Outcome.leaves (h : Outcome w call s r t) (hm' : t.missions.get id = some m') :
    call.Leaves s id m' := by
  cases h with
  | create_mission _ _ hrows => exact .of_insert hrows .create_mission hm'
  | approve_mission hget hstatus hrows =>
    exact .of_replaces hrows (.approve_mission (Table.key_of_get hget).symm hstatus) hm'
  | cancel_mission hget hstatus hmission hrows =>
    subst hmission
    exact .of_replaces hrows (.cancel_mission (Table.key_of_get hget).symm hstatus) hm'
  | @reassign_inspector cmd env _ old user cancelled missions hget hstatus _ hrows hrows' =>
    rw [show missions.get id = _ from Table.get_insert hrows' id] at hm'
    split at hm'
    · next hid =>
      cases hm'
      refine .created ?_ (.reassign_inspector hget)
      rw [Table.get_eq_none_iff]
      intro a ha hkey
      obtain ⟨b, hb, hbkey⟩ := hrows.get_related (R := fun a b => Row.key b = Row.key a) (fun _ => rfl)
        hrows.key (Table.get_of_mem ha)
      exact (Table.insert_eq_some_iff.mp hrows').1 b (Table.mem_of_get hb)
        (clash_of_key (hbkey.trans (hkey.trans hid.symm)))
    · exact .of_replaces hrows (.reassign_inspector (Table.key_of_get hget).symm hstatus) hm'
  | @update_mission mission_id body env _ old status missions hget hstatus hrows =>
    obtain rfl : old.id = mission_id := Table.key_of_get hget
    exact .of_replaces hrows (.update_mission hstatus) hm'
  | check_in h | confirm_host h | check_out h =>
    rw [h.frame] at hm'
    exact .kept hm'
  | _ => exact .kept hm'

end cases

/-- The three fields that record a cancellation. -/
def MissionModel.cancellation (m : MissionModel) : Option String × Option datetime × Option UUID :=
  (m.cancellation_reason, m.cancelled_at, m.cancelled_by_user_id)

/-- All three fields are set. -/
structure MissionModel.RecordsCancellation (m : MissionModel) : Prop where
  cancellation_reason : m.cancellation_reason.isSome
  cancelled_at : m.cancelled_at.isSome
  cancelled_by_user_id : m.cancelled_by_user_id.isSome

theorem MissionModel.RecordsCancellation.congr {m m' : MissionModel} (h : m'.cancellation = m.cancellation) :
    m'.RecordsCancellation ↔ m.RecordsCancellation := by
  simp only [MissionModel.cancellation, Prod.mk.injEq] at h
  obtain ⟨hreason, htime, huser⟩ := h
  constructor
  · rintro ⟨hr, ht, hu⟩
    exact ⟨hreason ▸ hr, htime ▸ ht, huser ▸ hu⟩
  · rintro ⟨hr, ht, hu⟩
    exact ⟨hreason ▸ hr, htime ▸ ht, huser ▸ hu⟩

/-- A mission assigned without touching the three fields keeps them. -/
theorem MissionModel.cancellation_assigned {m : MissionModel} {mission : Mission}
    (hreason : mission.cancellation_reason = m.cancellation_reason)
    (htime : mission.cancelled_at = m.cancelled_at)
    (huser : mission.cancelled_by_user_id = m.cancelled_by_user_id) :
    (m.assigned mission).cancellation = m.cancellation := by
  simp [MissionModel.cancellation, MissionModel.assigned, MissionModel.flush, apply_mission_to_row, hreason,
    htime, huser]

/-- A cancelled mission records its cancellation. -/
theorem MissionModel.records_cancellation_assigned (m : MissionModel) (mission : Mission) (reason : String)
    (cancelled_at : datetime) (user : UUID) :
    (m.assigned (mission.cancelled reason cancelled_at user)).RecordsCancellation := by
  have htime : (bound_column (Option.map datetime.stored) m.cancelled_at (some cancelled_at)
      m.cancelled_at).isSome := by
    unfold bound_column
    split
    · next heq => rw [← heq]; rfl
    · rfl
  constructor
  · simp [MissionModel.assigned, MissionModel.flush, apply_mission_to_row, Mission.cancelled]
  · exact htime
  · simp [MissionModel.assigned, MissionModel.flush, apply_mission_to_row, Mission.cancelled]

/-- The request cancels the mission, with a record. -/
inductive Request.Cancels {F : Type} (mission_id : UUID) : Request F → Prop
  | cancel_mission {cmd : CancelMissionCommand} : cmd.mission_id = mission_id →
      Request.Cancels mission_id (.cancel_mission cmd)

/-- The request names a status for the mission, whatever the one it has. -/
inductive Request.NamesStatus {F : Type} (mission_id : UUID) : Request F → Prop
  | update_mission {body : UpdateMissionBody} : body.status.isSome →
      Request.NamesStatus mission_id (.update_mission mission_id body)

section runs

variable {F : Type} {call : Call F} {m m' : MissionModel} {mission : Mission} {id : UUID}

/-- What an assignment does to the status and the record: it cancels both ways, or leaves
the record alone and the status too, unless it approves a draft or names a status. -/
theorem Call.Assigns.cancellation_cases (h : call.Assigns m mission) :
    ((m.assigned mission).RecordsCancellation ∧ (m.assigned mission).status = .CANCELLED ∧
      (call.request.Cancels m.id ∨ m.status ≠ .CANCELLED)) ∨
    ((m.assigned mission).cancellation = m.cancellation ∧
      ((m.assigned mission).status = m.status ∨
        (m.status = .DRAFT ∧ (m.assigned mission).status = .PLANNED) ∨ call.request.NamesStatus m.id)) := by
  cases h with
  | approve_mission _ hdraft =>
    exact Or.inr ⟨MissionModel.cancellation_assigned rfl rfl rfl,
      Or.inr (Or.inl ⟨hdraft, MissionModel.status_assigned _ _⟩)⟩
  | cancel_mission hid =>
    exact Or.inl ⟨m.records_cancellation_assigned _ _ _ _, MissionModel.status_assigned _ _,
      Or.inl (.cancel_mission hid)⟩
  | reassign_inspector _ hopen =>
    exact Or.inl ⟨m.records_cancellation_assigned _ _ _ _, MissionModel.status_assigned _ _,
      Or.inr fun hcancelled => hopen (Or.inr hcancelled)⟩
  | @update_mission body env _ status hstatus =>
    refine Or.inr ⟨MissionModel.cancellation_assigned rfl rfl rfl, ?_⟩
    cases hbody : body.status with
    | some value => exact Or.inr (Or.inr (.update_mission (by rw [hbody]; rfl)))
    | none =>
      rw [UpdateMissionBody.new_status, hbody] at hstatus
      cases hstatus
      exact Or.inl (MissionModel.status_assigned _ _)

/-- A new mission is not cancelled, and records no cancellation. -/
theorem Call.Creates.not_cancelled {s : Store F} (h : call.Creates s mission) (host_token : UUID) :
    (new_mission_row mission host_token).stored.status ≠ .CANCELLED ∧
      (new_mission_row mission host_token).stored.cancellation = (none, none, none) := by
  cases h with
  | @create_mission cmd env =>
    refine ⟨?_, rfl⟩
    change (if cmd.requires_approval then MissionStatus.DRAFT else .PLANNED) ≠ .CANCELLED
    cases cmd.requires_approval <;> decide
  | reassign_inspector => exact ⟨show MissionStatus.PLANNED ≠ .CANCELLED by decide, rfl⟩

theorem MissionModel.not_records_of_none (h : m.cancellation = (none, none, none)) :
    ¬ m.RecordsCancellation := by
  intro hrecords
  have hreason := hrecords.cancellation_reason
  rw [show m.cancellation_reason = none from congrArg Prod.fst h] at hreason
  cases hreason

variable [LinearOrder F] [NatCast F] {w : World F} {init s t : Store F} {calls : List (Call F)} {r : Response F}

/-- What a request does to a stored mission that is cancelled, or that records it. -/
theorem Outcome.cancellation_kept (h : Outcome w call s r t) (hm : s.missions.get id = some m)
    (hm' : t.missions.get id = some m') :
    (m.RecordsCancellation → m'.RecordsCancellation) ∧
      (m.status = .CANCELLED → (m'.status = .CANCELLED ∨ call.request.NamesStatus id) ∧
        (m'.cancellation = m.cancellation ∨ call.request.Cancels id)) := by
  cases h.leaves hm' with
  | kept hkept =>
    cases hm.symm.trans hkept
    exact ⟨fun hrecords => hrecords, fun hcancelled => ⟨Or.inl hcancelled, Or.inl rfl⟩⟩
  | @assigned old mission hold hassigns =>
    cases hm.symm.trans hold
    obtain rfl : m.id = id := Table.key_of_get hm
    rcases hassigns.cancellation_cases with ⟨hrecords, hstatus, hcancels⟩ | ⟨hsame, hstatus⟩
    · exact ⟨fun _ => hrecords,
        fun hcancelled => ⟨Or.inl hstatus, Or.inr (hcancels.resolve_right (not_not_intro hcancelled))⟩⟩
    · refine ⟨(MissionModel.RecordsCancellation.congr hsame).mpr, fun hcancelled => ⟨?_, Or.inl hsame⟩⟩
      rcases hstatus with hstatus | ⟨hdraft, -⟩ | hnames
      · exact Or.inl (hstatus.trans hcancelled)
      · cases hcancelled.symm.trans hdraft
      · exact Or.inr hnames
  | created hnone => cases hm.symm.trans hnone

/-- The record of a mission is complete or empty. -/
def MissionModel.WholeRecord (m : MissionModel) : Prop :=
  m.RecordsCancellation ∨ m.cancellation = (none, none, none)

theorem Outcome.whole_record (h : Outcome w call s r t)
    (hs : ∀ id m, s.missions.get id = some m → m.WholeRecord) (hm' : t.missions.get id = some m') :
    m'.WholeRecord := by
  cases h.leaves hm' with
  | kept hkept => exact hs _ _ hkept
  | @assigned old mission hold hassigns =>
    rcases hassigns.cancellation_cases with ⟨hrecords, -⟩ | ⟨hsame, -⟩
    · exact Or.inl hrecords
    · exact (hs _ _ hold).imp (MissionModel.RecordsCancellation.congr hsame).mpr hsame.trans
  | created _ hcreates => exact Or.inr (hcreates.not_cancelled _).2

/-- A mission is cancelled exactly when its cancellation is recorded. -/
def MissionModel.Faithful (m : MissionModel) : Prop := m.status = .CANCELLED ↔ m.RecordsCancellation

/-- Unless it names a status, a request leaves the status of a mission true to its record. -/
theorem Outcome.faithful (h : Outcome w call s r t) (hnames : ¬ call.request.NamesStatus id)
    (hs : ∀ m, s.missions.get id = some m → m.Faithful) (hm' : t.missions.get id = some m') :
    m'.Faithful := by
  cases h.leaves hm' with
  | kept hkept => exact hs _ hkept
  | @assigned old mission hold hassigns =>
    obtain rfl : old.id = id := Table.key_of_get hold
    have hfaithful := hs old hold
    rcases hassigns.cancellation_cases with ⟨hrecords, hstatus, -⟩ | ⟨hsame, hstatus⟩
    · exact ⟨fun _ => hrecords, fun _ => hstatus⟩
    · have hrecord := MissionModel.RecordsCancellation.congr hsame
      rcases hstatus with hstatus | ⟨hdraft, hplanned⟩ | hnamed
      · rw [MissionModel.Faithful, hrecord, hstatus]
        exact hfaithful
      · refine ⟨fun hcancelled => ?_, fun hrecords => ?_⟩
        · cases hplanned.symm.trans hcancelled
        · cases hdraft.symm.trans (hfaithful.mpr (hrecord.mp hrecords))
      · exact absurd hnamed hnames
  | created _ hcreates =>
    obtain ⟨hstatus, hnone⟩ := hcreates.not_cancelled call.env.host_token
    exact ⟨fun hcancelled => absurd hcancelled hstatus,
      fun hrecords => absurd hrecords (MissionModel.not_records_of_none hnone)⟩

omit [LinearOrder F] [NatCast F] in
theorem Store.get_of_no_missions (hempty : s.missions.rows = []) (id : UUID) : s.missions.get id = none := by
  rw [Table.get_eq_none_iff, hempty]
  intro m hm
  cases hm

/-- In every run from a store without missions: the three fields of a mission are all set
or all unset, and once set stay set; only a PATCH that names a status takes a cancelled
mission out of that status, and only its cancellation with a record writes the fields
again; and a mission that no PATCH of the run names a status for is cancelled exactly when
its fields are set. -/
theorem cancellation_over_run (hempty : init.missions.rows = []) (hrun : Run w init calls s) :
    (∀ m ∈ s.missions.rows, m.RecordsCancellation ∨ m.cancellation = (none, none, none)) ∧
    (∀ x call y id m, Takes (Served w) init calls s x call y → x.missions.get id = some m →
      ∃ m', y.missions.get id = some m' ∧ (m.RecordsCancellation → m'.RecordsCancellation) ∧
        (m.status = .CANCELLED → (m'.status = .CANCELLED ∨ call.request.NamesStatus id) ∧
          (m'.cancellation = m.cancellation ∨ call.request.Cancels id))) ∧
    ∀ id m, (∀ call ∈ calls, ¬ call.request.NamesStatus id) → s.missions.get id = some m →
      (m.status = .CANCELLED ↔ m.RecordsCancellation) := by
  refine ⟨?_, ?_, ?_⟩
  · have hwhole : ∀ id m, s.missions.get id = some m → m.WholeRecord := by
      refine hrun.invariant (fun s => ∀ id m, s.missions.get id = some m → m.WholeRecord) ?_ ?_
      · intro x call y hx hserved id m hm
        rcases hserved.outcome with rfl | ⟨r, houtcome⟩
        · exact hx id m hm
        · exact houtcome.whole_record hx hm
      · intro id m hm
        cases (Store.get_of_no_missions hempty id).symm.trans hm
    exact fun m hm => hwhole _ m (Table.get_of_mem hm)
  · intro x call y id m htakes hm
    rcases htakes.taken.outcome with rfl | ⟨r, houtcome⟩
    · exact ⟨m, hm, fun hrecords => hrecords, fun hcancelled => ⟨Or.inl hcancelled, Or.inl rfl⟩⟩
    · obtain ⟨m', hm', -⟩ := houtcome.mission_evolves hm
      exact ⟨m', hm', houtcome.cancellation_kept hm hm'⟩
  · intro id m hnames hm
    have hfaithful : ∀ m, s.missions.get id = some m → m.Faithful := by
      refine hrun.invariant_of_takes (fun s => ∀ m, s.missions.get id = some m → m.Faithful) ?_ ?_
      · intro m hm
        cases (Store.get_of_no_missions hempty id).symm.trans hm
      · intro x call y htakes hx m hm
        rcases htakes.taken.outcome with rfl | ⟨r, houtcome⟩
        · exact hx m hm
        · exact houtcome.faithful (hnames call htakes.mem) hx hm
    exact hfaithful m hm

end runs

namespace pilot

/-- A creation that needs no approval. -/
def found : CreateMissionCommand := { create with requires_approval := false }

theorem served_found : Served world opened ⟨.create_mission found, founding⟩ planned := by
  obtain ⟨answer, hreturns⟩ := create_returns found rfl rfl
  exact ⟨by decide, by rw [hreturns]; rfl⟩

/-- A PATCH that names the status `cancelled`. -/
def strike : UpdateMissionBody where
  status := some "cancelled"

def struck_mission : MissionModel := { mission with status := .CANCELLED }

noncomputable def struck : Store ℝ :=
  { opened with missions := ⟨[struck_mission], List.pairwise_singleton _ _⟩ }

theorem served_strike :
    Served world planned ⟨.update_mission ⟨"mission"⟩ strike, surroundings "1" 2⟩ struck := by
  have hreplaces : Table.Replaces planned.missions mission
      (mission.assigned (strike.apply_to (mission_to_domain mission) .CANCELLED)) struck.missions := by
    refine ⟨List.mem_singleton.mpr rfl, rfl, ?_⟩
    decide
  have houtcome : Outcome world ⟨.update_mission ⟨"mission"⟩ strike, surroundings "1" 2⟩ planned _ struck :=
    .update_mission rfl rfl hreplaces
  exact houtcome.served (show (surroundings "1" 2).Fresh planned by decide)

theorem served_cancel_struck :
    Served world struck ⟨.cancel_mission cancel, surroundings "2" 5⟩ cancelled := by
  have hreplaces : Table.Replaces struck.missions struck_mission (struck_mission.assigned
      ((mission_to_domain struck_mission).cancelled (slice_to 4000 cancel.reason) (datetime.utc 5)
        cancel.cancelled_by_user_id)) cancelled.missions := by
    refine ⟨List.mem_singleton.mpr rfl, rfl, ?_⟩
    decide
  have houtcome : Outcome world ⟨.cancel_mission cancel, surroundings "2" 5⟩ struck _ cancelled :=
    .cancel_mission rfl (by decide) rfl hreplaces
  exact houtcome.served (show (surroundings "2" 5).Fresh struck by decide)

def resumed_mission : MissionModel := { cancelled_mission with status := .PLANNED }

noncomputable def resumed : Store ℝ :=
  { opened with missions := ⟨[resumed_mission], List.pairwise_singleton _ _⟩ }

theorem served_resume :
    Served world cancelled ⟨.update_mission ⟨"mission"⟩ plan, surroundings "3" 6⟩ resumed := by
  have hreplaces : Table.Replaces cancelled.missions cancelled_mission
      (cancelled_mission.assigned (plan.apply_to (mission_to_domain cancelled_mission) .PLANNED))
        resumed.missions := by
    refine ⟨List.mem_singleton.mpr rfl, rfl, ?_⟩
    decide
  have houtcome : Outcome world ⟨.update_mission ⟨"mission"⟩ plan, surroundings "3" 6⟩ cancelled _ resumed :=
    .update_mission rfl rfl hreplaces
  exact houtcome.served (show (surroundings "3" 6).Fresh cancelled by decide)

end pilot

/-- A mission is created, then cancelled by a PATCH, which records nothing; then cancelled
with a record, although it already was; then planned again by a PATCH, which leaves the
record. -/
theorem cancellation_rewritten :
    Run pilot.world pilot.opened [⟨.create_mission pilot.found, pilot.founding⟩,
      ⟨.update_mission ⟨"mission"⟩ pilot.strike, pilot.surroundings "1" 2⟩] pilot.struck ∧
    pilot.struck.missions.get ⟨"mission"⟩ = some pilot.struck_mission ∧
    pilot.struck_mission.status = .CANCELLED ∧ ¬ pilot.struck_mission.RecordsCancellation ∧
    Served pilot.world pilot.struck ⟨.cancel_mission pilot.cancel, pilot.surroundings "2" 5⟩
      pilot.cancelled ∧
    pilot.cancelled.missions.get ⟨"mission"⟩ = some pilot.cancelled_mission ∧
    pilot.cancelled_mission.cancellation ≠ pilot.struck_mission.cancellation ∧
    Served pilot.world pilot.cancelled ⟨.update_mission ⟨"mission"⟩ pilot.plan, pilot.surroundings "3" 6⟩
      pilot.resumed ∧
    pilot.resumed.missions.get ⟨"mission"⟩ = some pilot.resumed_mission ∧
    pilot.resumed_mission.status = .PLANNED ∧ pilot.resumed_mission.RecordsCancellation :=
  ⟨(Execution.single pilot.served_found).snoc pilot.served_strike, rfl, rfl,
    MissionModel.not_records_of_none rfl, pilot.served_cancel_struck, rfl, by decide, pilot.served_resume,
    rfl, rfl, ⟨rfl, rfl, rfl⟩⟩

/-- The record of the pilot mission is empty after its creation. -/
theorem pilot_cancellation_over_run :
    pilot.mission.status = .CANCELLED ↔ pilot.mission.RecordsCancellation := by
  refine (cancellation_over_run rfl (Execution.single pilot.served_found)).2.2 ⟨"mission"⟩ _ ?_ rfl
  intro call hcall hnames
  rw [List.mem_singleton.mp hcall] at hnames
  cases hnames

end sigis
