import Sigis.Requests.Progress

open guarded relational transactional transition

namespace sigis

/-- Some character of the code is no white space. -/
def HasText (code : String) : Prop := ∃ c ∈ code.toList, isspace c = false

/-- A code has text exactly when something is left of it without its ends. -/
theorem hasText_iff_strip_ne {code : String} : HasText code ↔ strip code ≠ "" := by
  rw [Ne, strip_eq_empty_iff, HasText]
  push Not
  simp only [Bool.not_eq_true]

instance HasText.decidable (code : String) : Decidable (HasText code) :=
  decidable_of_iff (strip code ≠ "") hasText_iff_strip_ne.symm

theorem HasText.of_strip_eq {code other : String} (h : HasText code) (hstrip : strip other = strip code) :
    HasText other := by
  rw [hasText_iff_strip_ne] at h ⊢
  rwa [hstrip]

/-- Within the window, a code of white space only is accepted for a mission exactly when that is what
the mission's own code is, and there is such a code. -/
theorem blank_code_accepted_iff {expected : Option String} {now ws we : datetime} (hwindow : in_window now ws we) :
    (∃ provided, ¬ HasText provided ∧ assert_sms_code_valid provided expected now ws we = .ok ()) ↔
      ∃ code ∈ expected, code ≠ "" ∧ ¬ HasText code := by
  simp only [assert_sms_code_valid_eq_ok]
  constructor
  · rintro ⟨provided, hblank, code, rfl, hne, hstrip, -⟩
    exact ⟨code, rfl, hne, fun htext => hblank (htext.of_strip_eq hstrip)⟩
  · rintro ⟨code, rfl, hne, hblank⟩
    exact ⟨code, hblank, code, rfl, hne, rfl, hwindow⟩

variable {F : Type}

/-- The submitted code has text, and is the mission's up to white space around it. -/
structure ConfirmHostCommand.RealCode (cmd : ConfirmHostCommand F) (m : MissionModel) : Prop where
  submitted : ∃ code ∈ cmd.sms_code, HasText code ∧ ∃ expected ∈ m.sms_code, strip code = strip expected

/-- The code of the mission, if there is one that is not empty, has text. -/
def MissionModel.CodeGiven (m : MissionModel) : Prop := ∀ code ∈ m.sms_code, code ≠ "" → HasText code

def Store.CodesGiven (s : Store F) : Prop := ∀ m ∈ s.missions.rows, m.CodeGiven

/-- By this request the host confirms a visit to the mission that waits for an SMS code. -/
structure Request.ConfirmsSms (request : Request F) (cmd : ConfirmHostCommand F) (m : MissionModel)
    (s t : Store F) : Prop where
  shown : request = .confirm_host cmd
  waiting : ∃ v, s.site_visits.get cmd.site_visit_id = some v ∧ s.missions.get v.mission_id = some m ∧
    v.host_validation_mode = some .SMS_SHORTCODE ∧ v.status = .PENDING_HOST
  confirmed : ∃ v, t.site_visits.get cmd.site_visit_id = some v ∧ v.status = .COPRESENCE_OK

/-- The request is a creation or a PATCH of a mission that submits a code of white space only. -/
def Request.gives_blank_code : Request F → Prop
  | .create_mission cmd => ∃ code ∈ cmd.sms_code, code ≠ "" ∧ ¬ HasText code
  | .update_mission _ body => ∃ code ∈ body.sms_code, code ≠ "" ∧ ¬ HasText code
  | _ => False

@[simp] theorem MissionModel.sms_code_assigned (m : MissionModel) (mission : Mission) :
    (m.assigned mission).sms_code = mission.sms_code := by
  simp [MissionModel.assigned, MissionModel.flush, apply_mission_to_row]

variable [LinearOrder F] [NatCast F] {w : World F} {call : Call F} {init s t : Store F} {calls : List (Call F)}
  {cmd : ConfirmHostCommand F} {m : MissionModel} {r : Response F}

omit [LinearOrder F] [NatCast F] in
theorem Request.ConfirmsSms.changes (h : call.request.ConfirmsSms cmd m s t) : t ≠ s := by
  rintro rfl
  obtain ⟨v, hv, -, -, hwaiting⟩ := h.waiting
  obtain ⟨v', hv', hconfirmed⟩ := h.confirmed
  obtain rfl := Option.some.inj (hv.symm.trans hv')
  rw [hwaiting] at hconfirmed
  cases hconfirmed

/-- What a confirmation by SMS code has compared. -/
theorem Served.sms_code_compared (h : Served w s call t) (hconfirms : call.request.ConfirmsSms cmd m s t) :
    ∃ code ∈ cmd.sms_code, ∃ expected ∈ m.sms_code, expected ≠ "" ∧ strip code = strip expected := by
  have hshown := hconfirms.shown
  obtain ⟨v, hv, hm, hmode, -⟩ := hconfirms.waiting
  obtain ⟨request, env⟩ := call
  cases hshown
  rcases h.outcome with rfl | ⟨r, houtcome⟩
  · exact absurd rfl hconfirms.changes
  cases houtcome with
  | replayed => exact absurd rfl hconfirms.changes
  | confirm_host hdone =>
    obtain rfl := Option.some.inj (hdone.admits.visit.symm.trans hv)
    obtain rfl := Option.some.inj (hdone.admits.validation_mode.symm.trans hmode)
    have hmission := hdone.admits.mission
    rw [← hdone.admits.mission_id, hm] at hmission
    cases hmission
    have haccepts := hdone.admits.accepts
    generalize hmodes : HostValidationMode.SMS_SHORTCODE = mode at haccepts
    cases haccepts with
    | app_gps | qr_jwt | qr_token => cases hmodes
    | sms hcode hexpected hne hstrip => exact ⟨_, hcode, _, hexpected, hne, hstrip⟩

/-- A confirmation by SMS code rests on a real code exactly when the code of the mission has text. -/
theorem Served.real_code_iff (h : Served w s call t) (hconfirms : call.request.ConfirmsSms cmd m s t) :
    cmd.RealCode m ↔ ∃ expected ∈ m.sms_code, HasText expected := by
  constructor
  · rintro ⟨code, -, htext, expected, hexpected, hstrip⟩
    exact ⟨expected, hexpected, htext.of_strip_eq hstrip.symm⟩
  · rintro ⟨expected, hexpected, htext⟩
    obtain ⟨code, hcode, expected', hexpected', -, hstrip⟩ := h.sms_code_compared hconfirms
    cases hexpected.symm.trans hexpected'
    exact ⟨code, hcode, htext.of_strip_eq hstrip, expected, hexpected, hstrip⟩

/-- Unless a creation or a PATCH submits a code of white space only, every mission keeps a code with text,
or none. -/
theorem Outcome.codes_given (h : Outcome w call s r t) (hs : s.CodesGiven) (hcall : ¬ call.request.gives_blank_code) :
    t.CodesGiven := by
  have hkept : ∀ {m : MissionModel} {mission : Mission} {missions : Table MissionModel},
      mission.sms_code = m.sms_code → Table.Replaces s.missions m (m.assigned mission) missions →
        ∀ m' ∈ missions.rows, m'.CodeGiven := by
    intro m mission missions hcode hrows
    refine hrows.forall_mem hs ?_
    rw [MissionModel.CodeGiven, MissionModel.sms_code_assigned, hcode]
    exact hs m hrows.stored
  cases h with
  | create_mission _ _ hrows =>
    refine Table.forall_mem_insert hrows hs fun code hcode hne => ?_
    exact Decidable.not_not.mp fun hblank => hcall ⟨code, hcode, hne, hblank⟩
  | approve_mission _ _ hrows => exact hkept rfl hrows
  | cancel_mission _ _ hmission hrows =>
    subst hmission
    exact hkept rfl hrows
  | reassign_inspector hm _ _ hrows hrows' =>
    exact Table.forall_mem_insert hrows' (hkept rfl hrows) fun code hcode => hs _ (Table.mem_of_get hm) code hcode
  | @update_mission mission_id body env _ m status missions hm _ hrows =>
    refine hrows.forall_mem hs fun code hcode hne => ?_
    rw [MissionModel.sms_code_assigned] at hcode
    cases hbody : body.sms_code with
    | none =>
      refine hs m (Table.mem_of_get hm) code ?_ hne
      simpa [UpdateMissionBody.apply_to, hbody, mission_to_domain] using hcode
    | some given =>
      have hgiven : given = code := by simpa [UpdateMissionBody.apply_to, hbody] using hcode
      subst hgiven
      exact Decidable.not_not.mp fun hblank => hcall ⟨given, hbody, hne, hblank⟩
  | check_in hdone | confirm_host hdone | check_out hdone =>
    rw [hdone.frame]
    exact hs
  | _ => exact hs

theorem Served.codes_given (h : Served w s call t) (hs : s.CodesGiven) (hcall : ¬ call.request.gives_blank_code) :
    t.CodesGiven := by
  rcases h.outcome with rfl | ⟨r, houtcome⟩
  · exact hs
  · exact houtcome.codes_given hs hcall

/-- In every run a confirmation by SMS code rests on a real code exactly when the code of the mission
has text; and in a run from codes with text, where no creation and no PATCH submits one of white
space only, it always does. -/
theorem sms_confirmations_real :
    (∀ x call y, Takes (Served w) init calls s x call y → ∀ cmd m, call.request.ConfirmsSms cmd m x y →
      (cmd.RealCode m ↔ ∃ expected ∈ m.sms_code, HasText expected)) ∧
    (init.CodesGiven →
      (∀ x call y, Takes (Served w) init calls s x call y → ¬ call.request.gives_blank_code) →
      ∀ x call y, Takes (Served w) init calls s x call y → ∀ cmd m, call.request.ConfirmsSms cmd m x y →
        cmd.RealCode m) := by
  refine ⟨fun x call y htakes cmd m hconfirms => htakes.taken.real_code_iff hconfirms, ?_⟩
  intro hinit hcalls x call y htakes cmd m hconfirms
  have hx : x.CodesGiven := Execution.invariant_before Store.CodesGiven htakes hinit
    fun x' call' y' htakes' hx' => htakes'.taken.codes_given hx' (hcalls x' call' y' htakes')
  obtain ⟨v, -, hm, -⟩ := hconfirms.waiting
  obtain ⟨-, -, expected, hexpected, hne, -⟩ := htakes.taken.sms_code_compared hconfirms
  exact (htakes.taken.real_code_iff hconfirms).mpr
    ⟨expected, hexpected, hx m (Table.mem_of_get hm) expected hexpected hne⟩

namespace pilot

/-- A PATCH that gives the pilot mission a code. -/
def set_code (code : String) : UpdateMissionBody := { sms_code := some code }

def coded_mission (code : String) : MissionModel := { mission with sms_code := some code }

noncomputable def coded (code : String) : Store ℝ :=
  { opened with missions := ⟨[coded_mission code], List.pairwise_singleton _ _⟩ }

theorem served_set_code (code : String) :
    Served world planned ⟨.update_mission ⟨"mission"⟩ (set_code code), surroundings "0" 5⟩ (coded code) := by
  have hmission : planned.missions.get ⟨"mission"⟩ = some mission := rfl
  have hrows : Table.Replaces planned.missions mission
      (mission.assigned ((set_code code).apply_to (mission_to_domain mission) .PLANNED)) (coded code).missions := by
    refine ⟨List.mem_singleton.mpr rfl, rfl, ?_⟩
    simp [MissionModel.assigned, MissionModel.flush, apply_mission_to_row, UpdateMissionBody.apply_to, set_code,
      mission_to_domain, coded, coded_mission, planned]
    rfl
  exact (Outcome.update_mission hmission rfl hrows).served (show (surroundings "0" 5).Fresh planned by decide)

/-- The inspector arrives, and waits for the code. -/
noncomputable def arrive_sms : CheckInInspectorCommand ℝ :=
  { arrive "arrive-1" with host_validation_mode := .SMS_SHORTCODE }

noncomputable def sms_visit : SiteVisitModel ℝ := { visit with host_validation_mode := some .SMS_SHORTCODE }

noncomputable def coded_arrived (code : String) : Store ℝ :=
  { arrived with
    missions := (coded code).missions
    site_visits := ⟨[sms_visit], List.pairwise_singleton _ _⟩ }

theorem served_arrive_sms (code : String) :
    Served world (coded code) ⟨.check_in arrive_sms, surroundings "1" 10⟩ (coded_arrived code) := by
  have hadmits : CheckInInspector.Admits world (surroundings "1" 10) arrive_sms (coded code) (coded_mission code)
      school :=
    { mission := rfl
      approved := (show MissionStatus.PLANNED ≠ .DRAFT by decide)
      inspector := rfl
      establishment := rfl
      window := in_window_mission (by decide)
      geofence := (admits_arrive_planned "arrive-1" "1").geofence
      visit := by
        intro v hv
        cases hv }
  have hdone : CheckedIn world (surroundings "1" 10) arrive_sms (coded code) (coded_mission code) school
      (CheckInInspector.visit (surroundings "1" 10) arrive_sms none) (coded_arrived code) :=
    { unrecorded := rfl
      admits := hadmits
      visit_eq := rfl
      visits := Or.inl ⟨rfl, Table.insert_eq_some_iff.mpr ⟨by simp [coded, opened], rfl⟩⟩
      proofs := checked_in.proofs
      records := checked_in.records
      frame := rfl }
  exact (Outcome.check_in hdone).served (show (surroundings "1" 10).Fresh planned by decide)

noncomputable def confirm_sms (submitted : String) : ConfirmHostCommand ℝ :=
  { confirm "host" "confirm-1" with
    qr_token := none
    sms_code := some submitted }

/-- The host is confirmed by a code that is the mission's up to white space around it. -/
theorem served_confirm_sms {code submitted : String} (hne : code ≠ "") (hstrip : strip submitted = strip code) :
    ∃ t, Served world (coded_arrived code) ⟨.confirm_host (confirm_sms submitted), surroundings "2" 20⟩ t ∧
      (Request.confirm_host (confirm_sms submitted)).ConfirmsSms (confirm_sms submitted) (coded_mission code)
        (coded_arrived code) t := by
  have hadmits : ConfirmHostPresence.Admits world (surroundings "2" 20) (confirm_sms submitted) (coded_arrived code)
      sms_visit (coded_mission code) school .SMS_SHORTCODE none [] 0 0 :=
    { visit := rfl
      mission_id := rfl
      mission := rfl
      approved := (show MissionStatus.PLANNED ≠ .DRAFT by decide)
      establishment := rfl
      authorised := by
        intro user_id h
        cases h
      validation_mode := rfl
      accepts := .sms rfl rfl hne hstrip (in_window_mission (show (0 : Int) ≤ 20 ∧ (20 : Int) ≤ 100 by decide))
      pending := rfl
      latitude := rfl
      longitude := rfl }
  obtain ⟨t, hdone, hserved⟩ := hadmits.served (show (surroundings "2" 20).Fresh arrived by decide) rfl
  refine ⟨t, hserved, rfl, ⟨sms_visit, rfl, rfl, rfl, rfl⟩, _, hdone.visits.get_self, ?_⟩
  rw [SiteVisitModel.assigned_confirmed]

/-- The run in which the mission gets a code, and the inspector waits for it. -/
theorem run_coded (code : String) : Run world planned
    [⟨.update_mission ⟨"mission"⟩ (set_code code), surroundings "0" 5⟩, ⟨.check_in arrive_sms, surroundings "1" 10⟩]
    (coded_arrived code) :=
  (Execution.single (served_set_code code)).snoc (served_arrive_sms code)

end pilot

/-- A mission whose code is a blank is confirmed by the empty code. -/
theorem empty_code_confirms : ∃ t,
    Run pilot.world pilot.planned
      [⟨.update_mission ⟨"mission"⟩ (pilot.set_code " "), pilot.surroundings "0" 5⟩,
        ⟨.check_in pilot.arrive_sms, pilot.surroundings "1" 10⟩] (pilot.coded_arrived " ") ∧
    Served pilot.world (pilot.coded_arrived " ") ⟨.confirm_host (pilot.confirm_sms ""), pilot.surroundings "2" 20⟩ t ∧
    (Request.confirm_host (pilot.confirm_sms "")).ConfirmsSms (pilot.confirm_sms "") (pilot.coded_mission " ")
      (pilot.coded_arrived " ") t ∧
    ¬ HasText "" ∧ ¬ (pilot.confirm_sms "").RealCode (pilot.coded_mission " ") := by
  obtain ⟨t, hserved, hconfirms⟩ :=
    pilot.served_confirm_sms (show " " ≠ "" by decide) (show strip "" = strip " " by decide)
  refine ⟨t, pilot.run_coded " ", hserved, hconfirms, by decide, ?_⟩
  rintro ⟨code, hcode, htext, -⟩
  cases hcode
  exact absurd htext (by decide)

/-- The pilot mission gets a code, and is confirmed by it. -/
theorem pilot_real_code_confirms : (pilot.confirm_sms " 1234").RealCode (pilot.coded_mission "1234") := by
  obtain ⟨t, hserved, hconfirms⟩ :=
    pilot.served_confirm_sms (show "1234" ≠ "" by decide) (show strip " 1234" = strip "1234" by decide)
  have htakes := Takes.last (pilot.run_coded "1234") hserved
  have hgiven : pilot.planned.CodesGiven := by
    intro m hm code hcode
    rw [show m = pilot.mission from List.mem_singleton.mp hm] at hcode
    cases hcode
  refine sms_confirmations_real.2 hgiven ?_ _ _ _ htakes _ _ hconfirms
  intro x call y hcall
  have hmem := hcall.mem
  simp only [List.cons_append, List.nil_append, List.mem_cons, List.not_mem_nil, or_false] at hmem
  rcases hmem with rfl | rfl | rfl
  · rintro ⟨code, hcode, -, hblank⟩
    cases hcode
    exact hblank (by decide)
  · exact id
  · exact id

end sigis
