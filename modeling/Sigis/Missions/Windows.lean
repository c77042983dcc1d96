import Sigis.Missions.Approval

open guarded relational transactional transition

namespace sigis

/-- Everything `verify_host_qr_jwt` asks of a token, the window apart. -/
def Mission.Signs (mission : Mission) (jwt : PyJWT) (settings : AppSettings) (token jti : String)
    (decoded_at : Int) : Prop :=
  ∃ payload, jwt.decode token settings.secret_key settings.jwt_algorithm
      ["exp", "sub", "ht", "jti"] decoded_at = .ok payload ∧
    payload.get "typ" = some (.str "host_qr") ∧
    payload.get "sub" = some (.str mission.id.str) ∧
    (∃ host_token, mission.host_token = some host_token ∧
      payload.get "ht" = some (.str host_token.str)) ∧
    usable_jti (payload.get "jti") = some jti

theorem verify_host_qr_jwt_eq_ok_of_signs {mission : Mission} {jwt : PyJWT} {settings : AppSettings}
    {token jti : String} {decoded_at now : Int}
    (h : mission.Signs jwt settings token jti decoded_at) :
    verify_host_qr_jwt jwt settings token mission decoded_at now = .ok jti ↔
      in_window (datetime.utc now) mission.window_start mission.window_end := by
  rw [verify_host_qr_jwt_eq_ok]
  constructor
  · rintro ⟨-, -, -, -, -, -, hwindow⟩
    exact hwindow
  · intro hwindow
    obtain ⟨payload, hdecode, htyp, hsub, hclaim, hjti⟩ := h
    exact ⟨payload, hdecode, htyp, hsub, hclaim, hjti, hwindow⟩

/-- The window tests of the mission pass at the instants from `window_start` to
`window_end` and at no other: at a check-in, and under the right static token, signed
token or SMS code at a confirmation. -/
structure Mission.KeepsWindow (mission : Mission) (window_start window_end : datetime) : Prop where
  check_in : ∀ now, ensure_mission_window now mission.window_start mission.window_end = .ok () ↔
    window_start ≤ now ∧ now ≤ window_end
  qr_token : ∀ token now,
    assert_qr_token_valid token token now mission.window_start mission.window_end = .ok () ↔
      window_start ≤ now ∧ now ≤ window_end
  qr_jwt : ∀ jwt settings token jti decoded_at now, mission.Signs jwt settings token jti decoded_at →
    (verify_host_qr_jwt jwt settings token mission decoded_at now = .ok jti ↔
      window_start ≤ datetime.utc now ∧ datetime.utc now ≤ window_end)
  sms_code : ∀ code now, code ≠ "" →
    (assert_sms_code_valid code (some code) now mission.window_start mission.window_end = .ok () ↔
      window_start ≤ now ∧ now ≤ window_end)

/-- All window tests compare instants, so the window is kept when its instants are. -/
theorem Mission.keepsWindow_iff {mission : Mission} {window_start window_end : datetime} :
    mission.KeepsWindow window_start window_end ↔
      ∀ now : Int, (mission.window_start.instant ≤ now ∧ now ≤ mission.window_end.instant) ↔
        (window_start.instant ≤ now ∧ now ≤ window_end.instant) := by
  constructor
  · intro h now
    have hnow := h.check_in (datetime.utc now)
    rwa [ensure_mission_window_eq_ok, in_window_iff, datetime.le_def, datetime.le_def,
      datetime.instant_utc] at hnow
  · intro h
    have hwindow : ∀ now, in_window now mission.window_start mission.window_end ↔
        window_start ≤ now ∧ now ≤ window_end := fun now => in_window_iff.trans (h now.instant)
    refine ⟨fun now => ?_, fun token now => ?_, fun jwt settings token jti decoded_at now hsigns => ?_,
      fun code now hcode => ?_⟩
    · exact ensure_mission_window_eq_ok.trans (hwindow now)
    · rw [assert_qr_token_valid_eq_ok, hwindow]
      exact and_iff_right rfl
    · exact (verify_host_qr_jwt_eq_ok_of_signs hsigns).trans (hwindow _)
    · rw [assert_sms_code_valid_eq_ok, ← hwindow]
      constructor
      · rintro ⟨-, -, -, -, hin⟩
        exact hin
      · intro hin
        exact ⟨code, rfl, hcode, rfl, hin⟩

/-- Two closed intervals hold the same instants when their bounds agree, or both are empty. -/
theorem same_instants_iff {a b a' b' : Int} :
    (∀ now : Int, (a ≤ now ∧ now ≤ b) ↔ (a' ≤ now ∧ now ≤ b')) ↔
      (a = a' ∧ b = b') ∨ (b < a ∧ b' < a') := by
  constructor
  · intro h
    have ha := h a
    have hb := h b
    have ha' := h a'
    have hb' := h b'
    omega
  · rintro (⟨rfl, rfl⟩ | ⟨hempty, hempty'⟩) now
    · rfl
    · constructor <;> omega

/-- Both bounds are naive or in UTC, or the window is empty and so is that of its wall clocks. -/
def SurvivesStorage (window_start window_end : datetime) : Prop :=
  (window_start.utcoffset.getD 0 = 0 ∧ window_end.utcoffset.getD 0 = 0) ∨
    (window_end.instant < window_start.instant ∧ window_end.wall < window_start.wall)

/-- A mission whose bounds are the stored ones of a window keeps it exactly when the
window survives storage. -/
theorem Mission.keepsWindow_stored_iff {mission : Mission} {window_start window_end : datetime}
    (hstart : mission.window_start = window_start.stored) (hend : mission.window_end = window_end.stored) :
    mission.KeepsWindow window_start window_end ↔ SurvivesStorage window_start window_end := by
  rw [Mission.keepsWindow_iff, same_instants_iff, hstart, hend, datetime.instant_stored,
    datetime.instant_stored]
  simp only [SurvivesStorage, datetime.instant]
  constructor
  · rintro (⟨hws, hwe⟩ | ⟨hwall, hinstant⟩)
    · exact Or.inl ⟨by omega, by omega⟩
    · exact Or.inr ⟨hinstant, hwall⟩
  · rintro (⟨hws, hwe⟩ | ⟨hinstant, hwall⟩)
    · exact Or.inl ⟨by omega, by omega⟩
    · exact Or.inr ⟨hwall, hinstant⟩

/-- The bounds of the mission are as a column returns them. -/
structure MissionModel.Naive (m : MissionModel) : Prop where
  window_start : m.window_start.stored = m.window_start
  window_end : m.window_end.stored = m.window_end

def Store.NaiveWindows {F : Type} (s : Store F) : Prop := ∀ m ∈ s.missions.rows, m.Naive

theorem MissionModel.naive_stored (m : MissionModel) : m.stored.Naive := ⟨rfl, rfl⟩

/-- A naive bound that is written again comes back as it was. -/
theorem bound_column_of_naive {loaded : datetime} (h : loaded.stored = loaded) (written : datetime) :
    bound_column datetime.stored loaded written loaded = written.stored := by
  unfold bound_column
  split
  · next heq => rw [heq, h]
  · rfl

theorem MissionModel.Naive.window_start_assigned {m : MissionModel} (h : m.Naive) (mission : Mission) :
    (m.assigned mission).window_start = mission.window_start.stored :=
  bound_column_of_naive h.window_start mission.window_start

theorem MissionModel.Naive.window_end_assigned {m : MissionModel} (h : m.Naive) (mission : Mission) :
    (m.assigned mission).window_end = mission.window_end.stored :=
  bound_column_of_naive h.window_end mission.window_end

theorem MissionModel.Naive.assigned {m : MissionModel} (h : m.Naive) (mission : Mission) :
    (m.assigned mission).Naive := by
  refine ⟨?_, ?_⟩
  · rw [h.window_start_assigned, datetime.stored_stored]
  · rw [h.window_end_assigned, datetime.stored_stored]

/-- The two missions have the same bounds. -/
structure MissionModel.SameWindow (m m' : MissionModel) : Prop where
  window_start : m'.window_start = m.window_start
  window_end : m'.window_end = m.window_end

/-- A naive mission assigned its own bounds keeps them. -/
theorem MissionModel.Naive.same_window {m : MissionModel} (h : m.Naive) {mission : Mission}
    (hstart : mission.window_start = m.window_start) (hend : mission.window_end = m.window_end) :
    m.SameWindow (m.assigned mission) where
  window_start := by rw [h.window_start_assigned, hstart, h.window_start]
  window_end := by rw [h.window_end_assigned, hend, h.window_end]

variable {F : Type}

theorem Store.NaiveWindows.replaces {s : Store F} {missions : Table MissionModel} {old : MissionModel}
    {mission : Mission} (h : s.NaiveWindows)
    (hreplaces : Table.Replaces s.missions old (old.assigned mission) missions) :
    ∀ m ∈ missions.rows, m.Naive := hreplaces.forall_mem h ((h old hreplaces.stored).assigned mission)

theorem naive_of_insert {missions missions' : Table MissionModel} {row : MissionModel}
    (h : ∀ m ∈ missions.rows, m.Naive) (hinsert : missions.insert row.stored = some missions') :
    ∀ m ∈ missions'.rows, m.Naive := Table.forall_mem_insert hinsert h row.naive_stored

/-- The request gives the mission another bound. -/
inductive Request.Reschedules (mission_id : UUID) : Request F → Prop
  | update_mission {body : UpdateMissionBody} : body.window_start.isSome ∨ body.window_end.isSome →
      Request.Reschedules mission_id (.update_mission mission_id body)

/-- The request submits a window for a mission, by a creation or by a PATCH: a bound that
the PATCH leaves out is the stored one. -/
inductive Call.Submits (s : Store F) : Call F → UUID → datetime → datetime → Prop
  | create_mission {cmd : CreateMissionCommand} {env : Env} :
      Call.Submits s ⟨.create_mission cmd, env⟩ env.mission_id cmd.window_start cmd.window_end
  | update_mission {mission_id : UUID} {body : UpdateMissionBody} {env : Env} {m : MissionModel} :
      s.missions.get mission_id = some m →
      Call.Submits s ⟨.update_mission mission_id body, env⟩ mission_id
        (body.window_start.getD m.window_start) (body.window_end.getD m.window_end)

variable [LinearOrder F] [NatCast F] {w : World F} {call : Call F} {init s t u : Store F}
  {calls later : List (Call F)} {r : Response F} {id : UUID} {m : MissionModel}
  {window_start window_end : datetime}

/-- Every request leaves the stored bounds naive. -/
theorem Outcome.naive_windows (h : Outcome w call s r t) (hs : s.NaiveWindows) : t.NaiveWindows := by
  cases h with
  | create_mission _ _ hrows => exact naive_of_insert hs hrows
  | approve_mission _ _ hrows => exact hs.replaces hrows
  | cancel_mission _ _ _ hrows => exact hs.replaces hrows
  | reassign_inspector _ _ _ hrows hrows' => exact naive_of_insert (hs.replaces hrows) hrows'
  | update_mission _ _ hrows => exact hs.replaces hrows
  | check_in h | confirm_host h | check_out h =>
    rw [h.frame]
    exact hs
  | _ => exact hs

theorem Store.NaiveWindows.of_served (hs : s.NaiveWindows) (h : Served w s call t) : t.NaiveWindows := by
  rcases h.outcome with rfl | ⟨r, houtcome⟩
  · exact hs
  · exact houtcome.naive_windows hs

theorem Store.NaiveWindows.of_run (hs : init.NaiveWindows) (hrun : Run w init calls s) : s.NaiveWindows :=
  hrun.invariant Store.NaiveWindows (fun hx hserved => hx.of_served hserved) hs

/-- A request that gives the mission no bound leaves its window. -/
theorem Outcome.same_window (h : Outcome w call s r t) (hs : s.NaiveWindows)
    (hm : s.missions.get id = some m) (hkept : ¬ call.request.Reschedules id) :
    ∃ m', t.missions.get id = some m' ∧ m.SameWindow m' := by
  have hrefl : ∀ m : MissionModel, m.SameWindow m := fun m => ⟨rfl, rfl⟩
  cases h with
  | create_mission _ _ hrows => exact ⟨m, Table.get_insert_of_some hrows hm, hrefl m⟩
  | approve_mission _ _ hrows =>
    exact hrows.get_related hrefl ((hs _ hrows.stored).same_window rfl rfl) hm
  | cancel_mission _ _ hmission hrows =>
    subst hmission
    exact hrows.get_related hrefl ((hs _ hrows.stored).same_window rfl rfl) hm
  | reassign_inspector _ _ _ hrows hrows' =>
    obtain ⟨m', hm', hsame⟩ :=
      hrows.get_related hrefl ((hs _ hrows.stored).same_window rfl rfl) hm
    exact ⟨m', Table.get_insert_of_some hrows' hm', hsame⟩
  | @update_mission mission_id body env _ old status missions hold _ hrows =>
    by_cases hid : mission_id = id
    · subst hid
      have hbounds : body.window_start = none ∧ body.window_end = none := by
        constructor
        · cases hstart : body.window_start with
          | none => rfl
          | some _ => exact absurd (.update_mission (Or.inl (hstart ▸ rfl))) hkept
        · cases hend : body.window_end with
          | none => rfl
          | some _ => exact absurd (.update_mission (Or.inr (hend ▸ rfl))) hkept
      refine hrows.get_related hrefl ((hs _ hrows.stored).same_window ?_ ?_) hm
      · rw [UpdateMissionBody.apply_to, hbounds.1]
        rfl
      · rw [UpdateMissionBody.apply_to, hbounds.2]
        rfl
    · refine ⟨m, ?_, hrefl m⟩
      rw [← hm]
      exact hrows.get_other fun hkey => hid ((Table.key_of_get hold).symm.trans hkey.symm)
  | check_in h | confirm_host h | check_out h =>
    rw [h.frame]
    exact ⟨m, hm, hrefl m⟩
  | _ => exact ⟨m, hm, hrefl m⟩

/-- A run without PATCH of its bounds leaves the window of a mission. -/
theorem same_window_of_run (hs : s.NaiveWindows) (hm : s.missions.get id = some m)
    (hrun : Run w s later t) (hkept : ∀ call ∈ later, ¬ call.request.Reschedules id) :
    ∃ m', t.missions.get id = some m' ∧ m.SameWindow m' := by
  have hinvariant : t.NaiveWindows ∧ ∃ m', t.missions.get id = some m' ∧ m.SameWindow m' := by
    refine hrun.invariant_of_takes
      (fun x => x.NaiveWindows ∧ ∃ m', x.missions.get id = some m' ∧ m.SameWindow m')
      ⟨hs, m, hm, rfl, rfl⟩ ?_
    rintro x call y htakes ⟨hx, m', hm', hsame⟩
    refine ⟨hx.of_served htakes.taken, ?_⟩
    rcases htakes.taken.outcome with rfl | ⟨r, houtcome⟩
    · exact ⟨m', hm', hsame⟩
    · obtain ⟨m'', hm'', hsame'⟩ := houtcome.same_window hx hm' (hkept call htakes.mem)
      exact ⟨m'', hm'', hsame'.window_start.trans hsame.window_start,
        hsame'.window_end.trans hsame.window_end⟩
  exact hinvariant.2

/-- A submitted window is stored as its wall clocks. -/
theorem Outcome.submitted (h : Outcome w call s r t) (hs : s.NaiveWindows)
    (hsubmits : call.Submits s id window_start window_end) :
    ∃ m, t.missions.get id = some m ∧ m.window_start = window_start.stored ∧
      m.window_end = window_end.stored := by
  cases hsubmits with
  | create_mission =>
    cases h with
    | create_mission _ _ hrows => exact ⟨_, (Table.get_insert hrows _).trans (if_pos rfl), rfl, rfl⟩
    | replayed hkey => cases hkey
  | update_mission hm =>
    cases h with
    | update_mission hold _ hrows =>
      cases hold.symm.trans hm
      have hkey := Table.key_of_get hm
      subst hkey
      exact ⟨_, hrows.get_self, (hs _ hrows.stored).window_start_assigned _,
        (hs _ hrows.stored).window_end_assigned _⟩
    | replayed hkey => cases hkey

/-- In every run from naive bounds: once a creation or a PATCH that submits a window has
returned, and until another PATCH gives the mission a bound, the reloaded mission keeps the
submitted window exactly when the window survives the loss of its offsets. -/
theorem submitted_window_kept_iff (hinit : init.NaiveWindows) (hrun : Run w init calls s)
    (hfresh : call.env.Fresh s) (hexec : exec w call s = (.ok r, t))
    (hsubmits : call.Submits s id window_start window_end) (hlater : Run w t later u)
    (hkept : ∀ call ∈ later, ¬ call.request.Reschedules id) :
    ∃ m, MissionRepositoryImpl.get_by_id u id = some m ∧
      (m.KeepsWindow window_start window_end ↔ SurvivesStorage window_start window_end) := by
  have hs := hinit.of_run hrun
  have houtcome := outcome_of_exec hfresh hexec
  obtain ⟨m, hm, hstart, hend⟩ := houtcome.submitted hs hsubmits
  obtain ⟨m', hm', hsame⟩ := same_window_of_run (houtcome.naive_windows hs) hm hlater hkept
  refine ⟨mission_to_domain m', by rw [MissionRepositoryImpl.get_by_id, hm', Option.map_some], ?_⟩
  exact Mission.keepsWindow_stored_iff (hsame.window_start.trans hstart) (hsame.window_end.trans hend)

namespace pilot

/-- A mission from 08:00 to 10:00, one hour east of Greenwich. -/
def create_local : CreateMissionCommand where
  establishment_id := ⟨"school"⟩
  inspector_id := ⟨"inspector"⟩
  window_start := ⟨minutes 480, some (minutes 60)⟩
  window_end := ⟨minutes 600, some (minutes 60)⟩

theorem naive_opened : opened.NaiveWindows := by
  intro m hm
  cases hm

end pilot

/-- At 08:30 in the place that asked for a window from 08:00 to 10:00, the reloaded mission
is out of its window; at 10:30 it is in. -/
theorem local_window_moves : ∃ answer t m,
    exec pilot.world ⟨.create_mission pilot.create_local, pilot.founding⟩ pilot.opened = (.ok answer, t) ∧
    MissionRepositoryImpl.get_by_id t pilot.founding.mission_id = some m ∧
    (pilot.create_local.window_start ≤ datetime.utc (minutes 450) ∧
      datetime.utc (minutes 450) ≤ pilot.create_local.window_end) ∧
    ensure_mission_window (datetime.utc (minutes 450)) m.window_start m.window_end ≠ .ok () ∧
    ¬ datetime.utc (minutes 570) ≤ pilot.create_local.window_end ∧
    ensure_mission_window (datetime.utc (minutes 570)) m.window_start m.window_end = .ok () := by
  obtain ⟨answer, hreturns⟩ := pilot.create_returns pilot.create_local rfl rfl
  exact ⟨answer, _, _, hreturns, rfl, by decide, by decide, by decide, by decide⟩

/-- The pilot mission is asked for in UTC, and its window is kept through the PATCH of its
status. -/
theorem pilot_window_kept : ∃ m,
    MissionRepositoryImpl.get_by_id pilot.patched ⟨"mission"⟩ = some m ∧
    m.KeepsWindow (datetime.utc 0) (datetime.utc 100) := by
  obtain ⟨answer, hreturns⟩ := pilot.create_returns pilot.create rfl rfl
  have hpatch : ∀ call ∈ [(⟨.update_mission ⟨"mission"⟩ pilot.plan, pilot.surroundings "1" 2⟩ : Call ℝ)],
      ¬ call.request.Reschedules ⟨"mission"⟩ := by
    intro call hcall
    cases List.mem_singleton.mp hcall
    rintro ⟨hstart | hend⟩
    · cases hstart
    · cases hend
  obtain ⟨m, hm, hkeeps⟩ := submitted_window_kept_iff pilot.naive_opened .refl
    (show pilot.founding.Fresh pilot.opened by decide) hreturns .create_mission
    (Execution.single pilot.served_plan) hpatch
  exact ⟨m, hm, hkeeps.mpr (Or.inl ⟨rfl, rfl⟩)⟩

end sigis
