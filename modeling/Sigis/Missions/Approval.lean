import Mathlib.Logic.Relation
import Sigis.Missions.Cancelled

open guarded relational transactional transition

namespace sigis

variable {F : Type}

/-- The requests that write the status of a mission. -/
inductive Request.Decides (mission_id : UUID) : Request F → Prop
  | approve_mission {cmd : ApproveMissionCommand} : cmd.mission_id = mission_id →
      Request.Decides mission_id (.approve_mission cmd)
  | cancel_mission {cmd : CancelMissionCommand} : cmd.mission_id = mission_id →
      Request.Decides mission_id (.cancel_mission cmd)
  | reassign_inspector {cmd : ReassignInspectorCommand} : cmd.mission_id = mission_id →
      Request.Decides mission_id (.reassign_inspector cmd)
  | update_mission {body : UpdateMissionBody} : body.status.isSome →
      Request.Decides mission_id (.update_mission mission_id body)

/-- The mission directly replaced by another one. -/
def Store.Precedes (s : Store F) (m p : MissionModel) : Prop :=
  m ∈ s.missions.rows ∧ p ∈ s.missions.rows ∧ m.previous_mission_id = some p.id

variable [LinearOrder F] [NatCast F] {w : World F} {call : Call F} {init s t : Store F}
  {calls : List (Call F)} {r : Response F} {id : UUID} {m m' : MissionModel}

omit [LinearOrder F] [NatCast F] in
/-- Only the row replaced can have another status. -/
theorem id_of_status_ne {old new : MissionModel} {missions : Table MissionModel}
    (h : Table.Replaces s.missions old new missions) (hm : s.missions.get id = some m)
    (hm' : missions.get id = some m') (hne : m'.status ≠ m.status) : old.id = id ∧ m = old ∧ m' = new := by
  by_cases hid : old.id = id
  · subst hid
    rw [show missions.get old.id = some new from h.get_self] at hm'
    rw [show s.missions.get old.id = some old from h.get_old] at hm
    exact ⟨rfl, (Option.some.inj hm).symm, (Option.some.inj hm').symm⟩
  · rw [h.get_other (fun heq => hid heq.symm), hm] at hm'
    cases hm'
    exact absurd rfl hne

/-- Only the four requests on its status change the status of a stored mission. -/
theorem Outcome.decides (h : Outcome w call s r t) (hm : s.missions.get id = some m)
    (hm' : t.missions.get id = some m') (hne : m'.status ≠ m.status) : call.request.Decides id := by
  have hsame : t.missions = s.missions → call.request.Decides id := by
    intro hmissions
    rw [hmissions, hm] at hm'
    cases hm'
    exact absurd rfl hne
  cases h with
  | create_mission _ _ hrows =>
    cases (Table.get_insert_of_some hrows hm).symm.trans hm'
    exact absurd rfl hne
  | approve_mission hget _ hrows =>
    exact .approve_mission ((Table.key_of_get hget).symm.trans (id_of_status_ne hrows hm hm' hne).1)
  | cancel_mission hget _ _ hrows =>
    exact .cancel_mission ((Table.key_of_get hget).symm.trans (id_of_status_ne hrows hm hm' hne).1)
  | @reassign_inspector cmd env _ old user cancelled missions hget _ _ hrows hrows' =>
    obtain ⟨x, hx, -⟩ :=
      mission_evolves_of_replaces hrows (Mission.Edits.evolves ⟨rfl, rfl, rfl, rfl, rfl⟩) hm
    cases (Table.get_insert_of_some hrows' hx).symm.trans hm'
    exact .reassign_inspector ((Table.key_of_get hget).symm.trans (id_of_status_ne hrows hm hx hne).1)
  | @update_mission mission_id body env _ old status missions hget hstatus hrows =>
    obtain ⟨hid, rfl, rfl⟩ := id_of_status_ne hrows hm hm' hne
    have hkey : mission_id = id := (Table.key_of_get hget).symm.trans hid
    subst hkey
    refine .update_mission ?_
    cases hbody : body.status with
    | some value => rfl
    | none =>
      rw [UpdateMissionBody.new_status, hbody] at hstatus
      cases hstatus
      exact absurd (MissionModel.status_assigned _ _) hne
  | check_in h | confirm_host h | check_out h => exact hsame (by rw [h.frame])
  | _ => exact hsame rfl

/-- A new mission that requires approval is a draft; one that replaces another leaves that
one past its draft. -/
theorem Outcome.mission_created (h : Outcome w call s r t) (hnew : s.missions.get id = none)
    (hm' : t.missions.get id = some m') :
    (m'.requires_approval = true → m'.status = .DRAFT) ∧
      ∀ previous, m'.previous_mission_id = some previous →
        ∃ p', t.missions.get previous = some p' ∧ p'.status ≠ .DRAFT := by
  have hsame : t.missions = s.missions → False := by
    intro hmissions
    rw [hmissions, hnew] at hm'
    cases hm'
  have hreplaced : ∀ {old new : MissionModel} {missions : Table MissionModel},
      Table.Replaces s.missions old new missions → missions.get id = none := by
    intro old new missions hreplaces
    rw [Table.get_eq_none_iff]
    intro x hx hkey
    rcases hreplaces.mem_iff.mp hx with ⟨hx, -⟩ | rfl
    · exact Table.get_eq_none_iff.mp hnew x hx hkey
    · exact Table.get_eq_none_iff.mp hnew old hreplaces.stored (hreplaces.key.symm.trans hkey)
  cases h with
  | @create_mission cmd env _ est user missions _ _ hrows =>
    rw [show missions.get id = _ from Table.get_insert hrows id] at hm'
    split at hm'
    · cases hm'
      refine ⟨fun hrequires => if_pos hrequires, ?_⟩
      intro previous hprevious
      cases hprevious
    · cases hnew.symm.trans hm'
  | @reassign_inspector cmd env _ old user cancelled missions hget _ _ hrows hrows' =>
    rw [show missions.get id = _ from Table.get_insert hrows' id] at hm'
    split at hm'
    · cases hm'
      refine ⟨fun hrequires => Bool.noConfusion hrequires, fun previous hprevious => ?_⟩
      cases hprevious
      refine ⟨_, Table.get_insert_of_some hrows' hrows.get_self, ?_⟩
      rw [MissionModel.status_assigned]
      exact show MissionStatus.CANCELLED ≠ .DRAFT by decide
    · cases (hreplaced hrows).symm.trans hm'
  | approve_mission _ _ hrows => cases (hreplaced hrows).symm.trans hm'
  | cancel_mission _ _ _ hrows => cases (hreplaced hrows).symm.trans hm'
  | update_mission _ _ hrows => cases (hreplaced hrows).symm.trans hm'
  | check_in h | confirm_host h | check_out h => exact (hsame (by rw [h.frame])).elim
  | _ => exact (hsame rfl).elim

/-- The run took the mission out of its draft: a request on its status found it a draft
and left it in another status. -/
def Released (w : World F) (init : Store F) (calls : List (Call F)) (s : Store F) (id : UUID) : Prop :=
  ∃ x call y, Takes (Served w) init calls s x call y ∧ call.request.Decides id ∧
    (∃ m, x.missions.get id = some m ∧ m.status = .DRAFT) ∧
    ∃ m, y.missions.get id = some m ∧ m.status ≠ .DRAFT

theorem Released.trans (h : Released w init calls s id) {more : List (Call F)} (hmore : Run w s more t) :
    Released w init (calls ++ more) t id := by
  obtain ⟨x, call, y, htakes, hrest⟩ := h
  exact ⟨x, call, y, htakes.trans hmore, hrest⟩

/-- A mission that requires approval and is past its draft was taken out of it. -/
theorem released_of_not_draft (hempty : init.missions.rows = []) (hrun : Run w init calls s)
    (hm : s.missions.get id = some m) (hrequires : m.requires_approval = true)
    (hstatus : m.status ≠ .DRAFT) : Released w init calls s id := by
  have hinit : ¬ ∃ m, init.missions.get id = some m ∧ m.requires_approval = true ∧ m.status ≠ .DRAFT := by
    rintro ⟨m, hget, -⟩
    have hmem := Table.mem_of_get hget
    rw [hempty] at hmem
    cases hmem
  obtain ⟨x, call, y, htakes, hx, m', hm', hrequires', hstatus'⟩ := hrun.exists_origin
    (P := fun s => ∃ m, s.missions.get id = some m ∧ m.requires_approval = true ∧ m.status ≠ .DRAFT)
    hinit ⟨m, hm, hrequires, hstatus⟩
  rcases htakes.taken.outcome with rfl | ⟨r, houtcome⟩
  · exact absurd ⟨m', hm', hrequires', hstatus'⟩ hx
  cases hold : x.missions.get id with
  | none => exact absurd ((houtcome.mission_created hold hm').1 hrequires') hstatus'
  | some old =>
    obtain ⟨found, hfound, hevolves⟩ := houtcome.mission_evolves hold
    cases hfound.symm.trans hm'
    have hdraft : old.status = .DRAFT := by
      by_contra hne
      exact hx ⟨old, hold, hevolves.requires_approval.symm.trans hrequires', hne⟩
    refine ⟨x, call, y, htakes, houtcome.decides hold hm' ?_, ⟨old, hold, hdraft⟩, m', hm', hstatus'⟩
    rw [hdraft]
    exact hstatus'

/-- A replaced mission that requires approval was taken out of its draft, if only by its
reassignment. -/
theorem released_of_precedes (hempty : init.missions.rows = []) (hrun : Run w init calls s)
    {p : MissionModel} (h : s.Precedes m p) (hrequires : p.requires_approval = true) :
    Released w init calls s p.id := by
  obtain ⟨hm, hp, hprevious⟩ := h
  have hinit : ¬ ∃ m', init.missions.get m.id = some m' ∧ m'.previous_mission_id = some p.id := by
    rintro ⟨m', hget, -⟩
    have hmem := Table.mem_of_get hget
    rw [hempty] at hmem
    cases hmem
  obtain ⟨x, call, y, ⟨before, after, rfl, hbefore, hserved, hafter⟩, hx, m', hm', hprevious'⟩ :=
    hrun.exists_origin
      (P := fun s => ∃ m', s.missions.get m.id = some m' ∧ m'.previous_mission_id = some p.id) hinit
      ⟨m, Table.get_of_mem hm, hprevious⟩
  have hreached : Run w init (before ++ [call]) y := hbefore.snoc hserved
  rcases hserved.outcome with rfl | ⟨r, houtcome⟩
  · exact absurd ⟨m', hm', hprevious'⟩ hx
  cases hold : x.missions.get m.id with
  | some old =>
    obtain ⟨found, hfound, hevolves⟩ := houtcome.mission_evolves hold
    cases hfound.symm.trans hm'
    exact absurd ⟨old, hold, hevolves.previous_mission_id.symm.trans hprevious'⟩ hx
  | none =>
    obtain ⟨-, hreplaced⟩ := houtcome.mission_created hold hm'
    obtain ⟨p', hp', hstatus⟩ := hreplaced p.id hprevious'
    obtain ⟨q, hq, hevolves⟩ := mission_evolves_of_run hafter hp'
    cases (Table.get_of_mem hp).symm.trans hq
    have hreleased := released_of_not_draft hempty hreached hp'
      (hevolves.requires_approval.symm.trans hrequires) hstatus
    have hlabels : before ++ call :: after = (before ++ [call]) ++ after := by simp
    rw [hlabels]
    exact hreleased.trans hafter

/-- In every run from a store without missions: when a check-in takes effect on a mission,
that mission and every one it replaces, if it requires approval, was taken out of its
draft earlier in the run, by an approval, a cancellation, a reassignment or a PATCH of its
status. -/
theorem released_before_check_in (hempty : init.missions.rows = []) (hrun : Run w init calls s)
    {client_request_id : String} {answer : Response F} {p : MissionModel}
    (heffect : TookEffect w s call (.check_in id) client_request_id answer t)
    (hm : s.missions.get id = some m) (hchain : Relation.ReflTransGen s.Precedes m p)
    (hrequires : p.requires_approval = true) : Released w init calls s p.id := by
  rcases hchain.cases_tail with rfl | ⟨n, -, hprecedes⟩
  · obtain ⟨request, env⟩ := call
    have hoperation := heffect.operation
    have hadmitted := heffect.admitted
    cases request <;> cases hoperation
    obtain ⟨found, est, hadmits⟩ := hadmitted
    cases hadmits.mission.symm.trans hm
    rw [show p.id = _ from Table.key_of_get hm]
    exact released_of_not_draft hempty hrun hm hrequires hadmits.approved
  · exact released_of_precedes hempty hrun hprecedes hrequires

namespace pilot

def create : CreateMissionCommand where
  establishment_id := ⟨"school"⟩
  inspector_id := ⟨"inspector"⟩
  window_start := .utc 0
  window_end := .utc 100
  requires_approval := true

/-- The surroundings in which the pilot mission is created. -/
def founding : Env :=
  { surroundings "0" 1 with mission_id := ⟨"mission"⟩, host_token := ⟨"host-token"⟩ }

/-- The opened school, after one creation. -/
noncomputable def created (cmd : CreateMissionCommand) : Store ℝ :=
  { opened with
    missions := ⟨[(new_mission_row (CreateMission.mission founding cmd) founding.host_token).stored],
      List.pairwise_singleton _ _⟩ }

/-- A creation for the pilot school and its inspector returns. -/
theorem create_returns (cmd : CreateMissionCommand) (hschool : cmd.establishment_id = ⟨"school"⟩)
    (hinspector : cmd.inspector_id = ⟨"inspector"⟩) :
    ∃ answer, exec world ⟨.create_mission cmd, founding⟩ opened = (.ok answer, created cmd) := by
  have hest : opened.establishments.get cmd.establishment_id = some school := by
    rw [hschool]
    rfl
  have huser : UserAuthRepositoryImpl.get_by_id opened cmd.inspector_id =
      .ok ⟨⟨"inspector"⟩, "INSPECTOR"⟩ := by
    rw [hinspector]
    rfl
  have hinsert : opened.missions.insert
      (new_mission_row (CreateMission.mission founding cmd) founding.host_token).stored =
        some (created cmd).missions := Table.insert_eq_some_iff.mpr ⟨by simp [opened], rfl⟩
  have houtcome : Outcome world ⟨.create_mission cmd, founding⟩ opened _ (created cmd) :=
    .create_mission hest huser hinsert
  exact ⟨_, houtcome.exec (show founding.Fresh opened by decide)⟩

def draft : MissionModel := { mission with status := .DRAFT, requires_approval := true }

noncomputable def drafted : Store ℝ :=
  { opened with missions := ⟨[draft], List.pairwise_singleton _ _⟩ }

theorem served_create : Served world opened ⟨.create_mission create, founding⟩ drafted := by
  obtain ⟨answer, hreturns⟩ := create_returns create rfl rfl
  exact ⟨by decide, by rw [hreturns]; rfl⟩

/-- A PATCH that names the status `planned`. -/
def plan : UpdateMissionBody where
  status := some "planned"

def planned_draft : MissionModel := { mission with requires_approval := true }

noncomputable def patched : Store ℝ :=
  { opened with missions := ⟨[planned_draft], List.pairwise_singleton _ _⟩ }

theorem served_plan :
    Served world drafted ⟨.update_mission ⟨"mission"⟩ plan, surroundings "1" 2⟩ patched := by
  have hreplaces : Table.Replaces drafted.missions draft
      (draft.assigned (plan.apply_to (mission_to_domain draft) .PLANNED)) patched.missions := by
    refine ⟨List.mem_singleton.mpr rfl, rfl, ?_⟩
    decide
  have houtcome : Outcome world ⟨.update_mission ⟨"mission"⟩ plan, surroundings "1" 2⟩ drafted _ patched :=
    .update_mission rfl rfl hreplaces
  exact houtcome.served (show (surroundings "1" 2).Fresh drafted by decide)

theorem run_patched : Run world opened
    [⟨.create_mission create, founding⟩, ⟨.update_mission ⟨"mission"⟩ plan, surroundings "1" 2⟩] patched :=
  (Execution.single served_create).snoc served_plan

theorem arrival_patched : ∃ answer t, TookEffect world patched
    ⟨.check_in (arrive "arrive-1"), surroundings "2" 10⟩ (.check_in ⟨"mission"⟩) "arrive-1" answer t := by
  have hadmits : CheckInInspector.Admits world (surroundings "2" 10) (arrive "arrive-1") patched
      planned_draft school :=
    admits_arrive rfl (by decide) rfl rfl (in_window_mission (by decide)) rfl
  have hadmitted : Call.Admitted world patched ⟨.check_in (arrive "arrive-1"), surroundings "2" 10⟩ :=
    ⟨planned_draft, school, hadmits⟩
  exact hadmitted.took_effect (show (surroundings "2" 10).Fresh patched by decide) rfl rfl

end pilot

/-- A mission created as a draft takes a check-in after a PATCH of its status: nobody ever
approved it. -/
theorem check_in_without_approval :
    Run pilot.world pilot.opened
      [⟨.create_mission pilot.create, pilot.founding⟩,
        ⟨.update_mission ⟨"mission"⟩ pilot.plan, pilot.surroundings "1" 2⟩] pilot.patched ∧
    (∃ answer t, TookEffect pilot.world pilot.patched
      ⟨.check_in (pilot.arrive "arrive-1"), pilot.surroundings "2" 10⟩ (.check_in ⟨"mission"⟩) "arrive-1"
        answer t) ∧
    pilot.patched.missions.get ⟨"mission"⟩ = some pilot.planned_draft ∧
    pilot.create.requires_approval = true ∧ pilot.planned_draft.requires_approval = true :=
  ⟨pilot.run_patched, pilot.arrival_patched, rfl, rfl, rfl⟩

/-- The PATCH is what took the pilot mission out of its draft. -/
theorem pilot_draft_released : Released pilot.world pilot.opened
    [⟨.create_mission pilot.create, pilot.founding⟩,
      ⟨.update_mission ⟨"mission"⟩ pilot.plan, pilot.surroundings "1" 2⟩] pilot.patched ⟨"mission"⟩ := by
  obtain ⟨answer, t, heffect⟩ := pilot.arrival_patched
  exact released_before_check_in rfl pilot.run_patched heffect
    (show pilot.patched.missions.get ⟨"mission"⟩ = some pilot.planned_draft from rfl) .refl rfl

end sigis
