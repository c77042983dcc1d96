import Sigis.Idempotency.Replay
import Sigis.Visits.Proofs

open guarded relational transactional transition

namespace sigis

section dossiers

variable {F : Type}

/-- The dossier with whatever was filed in it since. -/
abbrev Dossier.Grows : Dossier F → Dossier F → Prop := Relation.ReflTransGen Dossier.Advances

theorem Dossier.Grows.arrival {d d' : Dossier F} (h : d.Grows d') : d'.arrival = d.arrival := by
  induction h with
  | refl => rfl
  | tail _ hlast ih =>
    rw [← ih]
    cases hlast <;> rfl

/-- What grows out of a validated dossier keeps its confirmation. -/
theorem Dossier.Grows.events {d d' : Dossier F} (h : d.Grows d') (hvalidated : d.events ≠ []) :
    d'.events = d.events := by
  induction h with
  | refl => rfl
  | tail hgrown hlast ih =>
    rw [← ih]
    cases hlast with
    | confirm => exact absurd ih.symm hvalidated
    | close => rfl

/-- A completed dossier grows no more. -/
theorem Dossier.Grows.eq_of_completed {d d' : Dossier F} (h : d.Grows d')
    (hcompleted : d.visit.status = .COMPLETED) : d' = d := by
  rcases h.cases_head with rfl | ⟨_, hfirst, -⟩
  · rfl
  · cases hfirst <;> cases hcompleted

/-- The times of a dossier are in the order of its stages, and none is past `now`. -/
def Dossier.Chronological (now : Int) : Dossier F → Prop
  | pending arrival => arrival.time.instant ≤ now
  | validated arrival confirmation =>
    arrival.time ≤ confirmation.time ∧ confirmation.time.instant ≤ now
  | completed arrival confirmation departure =>
    arrival.time ≤ confirmation.time ∧ confirmation.time ≤ departure ∧ departure.instant ≤ now

theorem Dossier.Chronological.later {now later : Int} {d : Dossier F} (h : d.Chronological now)
    (hle : now ≤ later) : d.Chronological later := by
  cases d with
  | pending => exact h.trans hle
  | validated => exact ⟨h.1, h.2.trans hle⟩
  | completed => exact ⟨h.1, h.2.1, h.2.2.trans hle⟩

/-- The event of a visit is no earlier than the arrival. -/
theorem Dossier.Chronological.arrival_le {now : Int} {d : Dossier F} (h : d.Chronological now)
    {e : CoPresenceEventModel} (he : e ∈ d.events) : d.arrival.time ≤ e.validated_at := by
  cases d with
  | pending => cases he
  | validated =>
    obtain rfl := List.mem_singleton.mp he
    exact h.1
  | completed =>
    obtain rfl := List.mem_singleton.mp he
    exact h.1

/-- A visit that is closed has one event, no later than the departure. -/
theorem Dossier.Chronological.le_departure {now : Int} {d : Dossier F} (h : d.Chronological now)
    {departed : datetime} (hdeparted : d.visit.checked_out_at = some departed) :
    ∃ e, d.events = [e] ∧ e.validated_at ≤ departed := by
  cases d with
  | pending => cases hdeparted
  | validated => cases hdeparted
  | completed =>
    cases hdeparted
    exact ⟨_, rfl, h.2.1⟩

variable {s t : Store F} {d : Dossier F}

/-- A dossier held after a request was held before it, when its visit was stored and the
dossier of that visit was left as it was. -/
theorem Store.Filed.holds_of_later (hfiled : s.Filed) (hd : t.Holds d) (hv : d.visit ∈ s.site_visits.rows)
    (hkept : ∀ d', s.Holds d' → d'.visit = d.visit → t.Holds d') : s.Holds d := by
  obtain ⟨d', hvisit, hd'⟩ := hfiled d.visit hv
  rwa [hd.unique (hkept d' hd' hvisit) hvisit.symm]

end dossiers

variable {F : Type} [LinearOrder F] [NatCast F] {w : World F} {call : Call F} {env : Env}
  {init s t x y : Store F} {calls : List (Call F)} {r : Response F} {d : Dossier F}

/-- A dossier only ever grows over a run. -/
theorem grows_of_run (hrun : Run w s calls t) (hfiled : s.Filed) (hd : s.Holds d) :
    ∃ d', t.Holds d' ∧ d.Grows d' := by
  have hboth : t.Filed ∧ ∃ d', t.Holds d' ∧ d.Grows d' := by
    refine invariant_of_outcomes (fun t => t.Filed ∧ ∃ d', t.Holds d' ∧ d.Grows d') hrun ⟨hfiled, d, hd, .refl⟩ ?_
    rintro x call r y ⟨hx, d', hd', hgrows⟩ hfresh houtcome
    obtain ⟨hy, hadvances⟩ := houtcome.refines hfresh hx
    rcases hadvances d' hd' with hd' | ⟨d'', hadvance, hd''⟩
    · exact ⟨hy, d', hd', hgrows⟩
    · exact ⟨hy, d'', hd'', hgrows.tail hadvance⟩
  exact hboth.2

section steps

variable {v : SiteVisitModel F} {m : MissionModel} {est : EstablishmentModel F}

/-- The time of a confirmation is the reading of the clock it was given at. -/
theorem HostConfirmed.refines_at {cmd : ConfirmHostCommand F} {mode : HostValidationMode}
    {host : Option (F × F)} {consumed : List (Write F)} {latitude longitude : F}
    (h : HostConfirmed w env cmd s v m est mode host consumed latitude longitude t) (hfiled : s.Filed) :
    ∃ (arrival : CheckIn F) (confirmation : Confirmation F arrival.mode),
      arrival.visit = v ∧ confirmation.time = (datetime.utc env.now).stored ∧
      s.Holds (.pending arrival) ∧ t.Holds (.validated arrival confirmation) ∧
      (∀ d, s.Holds d → d.visit ≠ v → t.Holds d) ∧
      ∀ x ∈ t.site_visits.rows, (x ∈ s.site_visits.rows ∧ x ≠ v) ∨ x = confirmation.visit := by
  obtain ⟨arrival, confirmation, rfl, -, -, hold, hnew, hholds, hrows⟩ := h.refines hfiled
  refine ⟨arrival, confirmation, rfl, ?_, hold, hnew, hholds, hrows⟩
  have hmem : (new_copresence_event_row (ConfirmHostPresence.event env arrival.visit) mode).stored ∈
      [confirmation.event] := by
    rw [show [confirmation.event] = (Dossier.validated arrival confirmation).events from rfl, ← hnew.events,
      Table.rows_insert h.events]
    exact List.mem_filter.mpr ⟨List.mem_append_right _ (List.mem_singleton.mpr rfl), decide_eq_true rfl⟩
  exact (congrArg CoPresenceEventModel.validated_at (List.mem_singleton.mp hmem)).symm

/-- A request dates what it files at its own reading of the clock. -/
theorem Outcome.chronological (h : Outcome w call s r t) (hfresh : call.env.Fresh s) (hfiled : s.Filed)
    (hs : ∀ d, s.Holds d → d.Chronological call.env.now) (hd : t.Holds d) :
    d.Chronological call.env.now := by
  rcases h.visit_tables with ⟨hvisits, hproofs, hevents⟩ | ⟨cmd, m, est, visit, -, hin⟩ |
    ⟨cmd, v, m, est, mode, host, consumed, latitude, longitude, -, hconfirmed⟩ | ⟨cmd, v, m, -, hout⟩
  · refine hs d (hfiled.holds_of_later hd (hvisits ▸ hd.visit) ?_)
    intro d' hd' _
    refine hd'.frame h.mission_evolves ?_ ?_ ?_
    · rw [hvisits]
      exact hd'.visit
    · rw [hproofs]
    · rw [hevents]
  · obtain ⟨hnew, hholds, hrows⟩ := hin.refines hfiled hfresh
    rcases hrows d.visit hd.visit with hv | hv
    · exact hs d (hfiled.holds_of_later hd hv fun d' hd' _ => hholds d' hd')
    · obtain rfl := hd.unique hnew hv
      exact le_of_eq (datetime.instant_stored _)
  · obtain ⟨arrival, confirmation, rfl, htime, hold, hnew, hholds, hrows⟩ := hconfirmed.refines_at hfiled
    rcases hrows d.visit hd.visit with ⟨hv, hne⟩ | hv
    · exact hs d (hfiled.holds_of_later hd hv fun d' hd' heq => hholds d' hd' (heq ▸ hne))
    · obtain rfl := hd.unique hnew hv
      have harrived : arrival.time.instant ≤ call.env.now := hs _ hold
      refine ⟨?_, ?_⟩
      · rw [htime, datetime.le_def, datetime.instant_stored]
        exact harrived
      · rw [htime, datetime.instant_stored]
        exact le_rfl
  · obtain ⟨arrival, confirmation, rfl, hold, hnew, hholds, hrows⟩ := hout.refines hfiled
    rcases hrows d.visit hd.visit with ⟨hv, hne⟩ | hv
    · exact hs d (hfiled.holds_of_later hd hv fun d' hd' heq => hholds d' hd' (heq ▸ hne))
    · obtain rfl := hd.unique hnew hv
      obtain ⟨horder, hconfirmed⟩ : (Dossier.validated arrival confirmation).Chronological call.env.now :=
        hs _ hold
      refine ⟨horder, ?_, ?_⟩
      · rw [datetime.le_def, datetime.instant_stored]
        exact hconfirmed
      · exact le_of_eq (datetime.instant_stored _)

end steps

/-- The clock never goes back: not while a signed token is verified, and not from one
request to the next. -/
structure ClockForward (calls : List (Call F)) : Prop where
  tokens : ∀ call ∈ calls, call.env.now ≤ call.env.jwt_verified_at
  requests : calls.Pairwise fun call later => call.env.now ≤ later.env.now

theorem chronological_of_run (hvisits : init.site_visits.rows = []) (hclock : ClockForward calls)
    (hrun : Run w init calls s) (hd : s.Holds d) : ∃ now, d.Chronological now := by
  obtain ⟨now, hnow⟩ := Execution.exists_past hclock.requests
  have hs : s.Filed ∧ ∀ d, s.Holds d → d.Chronological now := by
    refine hrun.invariant_at (fun now s => s.Filed ∧ ∀ d, s.Holds d → d.Chronological now)
      hclock.requests ?_ ?_ ?_ hnow
    · intro now
      refine ⟨Store.filed_of_no_visits hvisits, fun d hd => ?_⟩
      have hv := hd.visit
      rw [hvisits] at hv
      cases hv
    · rintro now later s hle ⟨hfiled, hs⟩
      exact ⟨hfiled, fun d hd => (hs d hd).later hle⟩
    · rintro s call t ⟨hfiled, hs⟩ hserved
      rcases hserved.outcome with rfl | ⟨r, houtcome⟩
      · exact ⟨hfiled, hs⟩
      · exact ⟨(houtcome.refines hserved.1 hfiled).1,
          fun d hd => houtcome.chronological hserved.1 hfiled hs hd⟩
  exact ⟨now, hs.2 d hd⟩

/-- Every dossier was opened by a check-in of the run. -/
theorem exists_arrival (hvisits : init.site_visits.rows = []) (hrun : Run w init calls s)
    (hd : s.Holds d) :
    ∃ x cmd env y m est visit, Takes (Served w) init calls s x ⟨.check_in cmd, env⟩ y ∧
      CheckedIn w env cmd x m est visit y ∧ (∀ v ∈ x.site_visits.rows, v.id ≠ d.arrival.visit_id) ∧
      d.arrival = CheckInInspector.arrival w env cmd est := by
  have hinit : ¬ ∃ v ∈ init.site_visits.rows, v.id = d.arrival.visit_id := by simp [hvisits]
  obtain ⟨x, ⟨request, env⟩, y, htakes, hx, v, hv, hid⟩ := hrun.exists_origin
    (P := fun s => ∃ v ∈ s.site_visits.rows, v.id = d.arrival.visit_id) hinit ⟨d.visit, hd.visit, d.id_visit⟩
  have hnew : v ∉ x.site_visits.rows := fun hold => hx ⟨v, hold, hid⟩
  rcases htakes.taken.outcome with rfl | ⟨r, houtcome⟩
  · exact absurd hv hnew
  rcases houtcome.visit_cases hv with hold | ⟨cmd, m, est, visit, rfl, hin, -⟩ |
    ⟨cmd, confirmed, m, est, mode, host, consumed, latitude, longitude, rfl, hconfirmed, rfl⟩ |
    ⟨cmd, closed, m, rfl, hout, rfl⟩
  · exact absurd hold hnew
  · obtain ⟨earlier, -, hearlier⟩ := htakes.before
    obtain ⟨later, hlater⟩ := htakes.after
    have hfiled := filed_of_run hearlier hvisits
    obtain ⟨hopened, -, hrows⟩ := hin.refines hfiled htakes.taken.1
    obtain rfl := (hrows v hv).resolve_left hnew
    have hy : y.Filed := filed_of_run (hearlier.snoc htakes.taken) hvisits
    obtain ⟨d', hd', hgrows⟩ := grows_of_run hlater hy hopened
    have harrival := hgrows.arrival
    obtain rfl : d' = d := by
      refine hd'.unique hd (hd'.visit_eq hd.visit ?_)
      rw [harrival, d.id_visit]
      exact hid
    exact ⟨x, cmd, env, y, m, est, visit, htakes, hin, fun u hu huid => hx ⟨u, hu, huid⟩, harrival⟩
  · exact absurd ⟨confirmed, hconfirmed.visits.stored, hid⟩ hx
  · exact absurd ⟨closed, hout.visits.stored, hid⟩ hx

/-- The time rule of each way to confirm: a delay after the arrival for a position, the
window of the mission for the static token and the code, its end for a signed token. -/
inductive ConfirmHostPresence.OnTime (cmd : ConfirmHostCommand F) (m : MissionModel)
    (checked_in_at validated_at : datetime) : HostValidationMode → Prop
  | app_gps : validated_at.instant - checked_in_at.instant ≤ minutes 15 →
      ConfirmHostPresence.OnTime cmd m checked_in_at validated_at .APP_GPS
  | qr_jwt : cmd.qr_jwt.isSome → validated_at ≤ m.window_end →
      ConfirmHostPresence.OnTime cmd m checked_in_at validated_at .QR_STATIC
  | qr_token : cmd.qr_jwt = none → in_window validated_at m.window_start m.window_end →
      ConfirmHostPresence.OnTime cmd m checked_in_at validated_at .QR_STATIC
  | sms : in_window validated_at m.window_start m.window_end →
      ConfirmHostPresence.OnTime cmd m checked_in_at validated_at .SMS_SHORTCODE

/-- The window test of a reading of the clock is that of the naive time stored for it. -/
theorem in_window_stored_iff {now : Int} {window_start window_end : datetime} :
    in_window (datetime.utc now).stored window_start window_end ↔
      in_window (datetime.utc now) window_start window_end := by
  rw [in_window_iff, in_window_iff, datetime.instant_stored, datetime.instant_utc]
  rfl

theorem ConfirmHostPresence.Accepts.on_time {cmd : ConfirmHostCommand F} {v : SiteVisitModel F}
    {m : MissionModel} {mode : HostValidationMode} {host : Option (F × F)} {consumed : List (Write F)}
    (h : ConfirmHostPresence.Accepts w env cmd s v m mode host consumed)
    (htokens : env.now ≤ env.jwt_verified_at) {checked_in_at : datetime}
    (harrived : v.checked_in_at = some checked_in_at) :
    ConfirmHostPresence.OnTime cmd m checked_in_at (datetime.utc env.now).stored mode := by
  cases h with
  | app_gps _ _ _ _ hcheck_in hdelay =>
    cases hcheck_in.symm.trans harrived
    refine .app_gps ?_
    rw [datetime.instant_stored]
    exact hdelay
  | qr_jwt htoken hverify =>
    obtain ⟨-, -, -, -, -, -, hwindow⟩ := verify_host_qr_jwt_eq_ok.mp hverify
    obtain ⟨-, hend⟩ := in_window_iff.mp hwindow
    rw [datetime.instant_utc] at hend
    refine .qr_jwt (by rw [htoken]; rfl) ?_
    rw [datetime.le_def, datetime.instant_stored]
    exact htokens.trans hend
  | qr_token htoken _ hwindow => exact .qr_token htoken (in_window_stored_iff.mpr hwindow)
  | sms _ _ _ _ hwindow => exact .sms (in_window_stored_iff.mpr hwindow)

/-- The event of a dossier was recorded by a confirmation of the run, on time. -/
theorem exists_confirmation_on_time (hvisits : init.site_visits.rows = []) (hclock : ClockForward calls)
    (hrun : Run w init calls s) (hd : s.Holds d) {e : CoPresenceEventModel} (he : e ∈ d.events) :
    ∃ x cmd env y m, Takes (Served w) init calls s x ⟨.confirm_host cmd, env⟩ y ∧
      e ∉ x.copresence_events.rows ∧ e ∈ y.copresence_events.rows ∧
      x.missions.get d.arrival.mission_id = some m ∧
      ConfirmHostPresence.OnTime cmd m d.arrival.time e.validated_at d.arrival.mode := by
  have hstage : SiteVisitStatus.COPRESENCE_OK.stage ≤ d.visit.status.stage := by
    cases d with
    | pending => cases he
    | validated => exact le_rfl
    | completed => exact Nat.le_add_right 3 2
  obtain ⟨x, cmd, env, y, v, m, est, mode, host, consumed, latitude, longitude, htakes, hid, hconfirmed⟩ :=
    exists_confirmation hvisits hrun hd.visit hstage
  obtain ⟨earlier, -, hearlier⟩ := htakes.before
  obtain ⟨later, hlater⟩ := htakes.after
  obtain ⟨arrival, confirmation, rfl, htime, hold, hnew, -⟩ :=
    hconfirmed.refines_at (filed_of_run hearlier hvisits)
  obtain ⟨d', hd', hgrows⟩ :=
    grows_of_run hlater (filed_of_run (hearlier.snoc htakes.taken) hvisits) hnew
  have harrival : d'.arrival = arrival := hgrows.arrival
  obtain rfl : d' = d := by
    refine hd'.unique hd (hd'.visit_eq hd.visit ?_)
    rw [harrival]
    exact hid
  rw [hgrows.events (List.cons_ne_nil _ _)] at he
  obtain rfl : e = confirmation.event := List.mem_singleton.mp he
  rw [harrival]
  refine ⟨x, cmd, env, y, m, htakes, ?_, ?_, ?_, ?_⟩
  · intro hmem
    have hfound : confirmation.event ∈ (Dossier.pending arrival).events := by
      rw [← hold.events]
      exact List.mem_filter.mpr ⟨hmem, decide_eq_true rfl⟩
    cases hfound
  · have hfound : confirmation.event ∈ (Dossier.validated arrival confirmation).events :=
      List.mem_singleton.mpr rfl
    rw [← hnew.events] at hfound
    exact (List.mem_filter.mp hfound).1
  · rw [show arrival.mission_id = cmd.mission_id from hconfirmed.admits.mission_id]
    exact hconfirmed.admits.mission
  · have hmode : arrival.mode = mode := Option.some.inj hconfirmed.admits.validation_mode
    rw [hmode]
    change ConfirmHostPresence.OnTime cmd m arrival.time confirmation.time mode
    rw [htime]
    exact hconfirmed.admits.accepts.on_time (hclock.tokens _ htakes.mem) rfl

/-- A check-out that takes effect closes its visit and answers its duration. -/
theorem TookEffect.checked_out {cmd : CheckOutCommand} {op : Operation} {client_request_id : String}
    {payload : Dict} (h : TookEffect w s ⟨.check_out cmd, env⟩ op client_request_id (.payload payload) t)
    (hfresh : env.Fresh s) :
    op = .check_out cmd.site_visit_id ∧
      ∃ v m, CheckedOut env cmd s v m t ∧ payload = CheckOutVisit.payload env v := by
  obtain ⟨rfl, rfl⟩ := Prod.mk.inj (Option.some.inj h.operation)
  have houtcome := outcome_of_exec hfresh h.returned
  have hnone := h.unrecorded
  generalize hanswer : Response.payload payload = answer at houtcome
  refine ⟨rfl, ?_⟩
  cases houtcome with
  | @check_out _ _ _ v m _ hout =>
    cases hanswer
    exact ⟨v, m, hout, rfl⟩
  | replayed hkey hrecord =>
    obtain ⟨rfl, rfl⟩ := Prod.mk.inj (Option.some.inj hkey)
    cases hnone.symm.trans hrecord

/-- A check-out that returns is answered as the one that closed its visit. -/
theorem exists_check_out (hrecords : init.idempotency_records.rows = []) {cmd : CheckOutCommand}
    {payload : Dict} (htakes : Takes (Served w) init calls s x ⟨.check_out cmd, env⟩ y)
    (hreturns : exec w ⟨.check_out cmd, env⟩ x = (.ok (.payload payload), y)) :
    ∃ x' cmd' env' y' v m, Takes (Served w) init calls s x' ⟨.check_out cmd', env'⟩ y' ∧
      cmd'.site_visit_id = cmd.site_visit_id ∧ CheckedOut env' cmd' x' v m y' ∧
      payload = CheckOutVisit.payload env' v := by
  cases hrecord : x.recorded cmd.scope cmd.client_request_id with
  | none =>
    have heffect : TookEffect w x ⟨.check_out cmd, env⟩ (.check_out cmd.site_visit_id)
        cmd.client_request_id (.payload payload) y := ⟨rfl, hrecord, hreturns⟩
    obtain ⟨-, v, m, hout, hpayload⟩ := heffect.checked_out htakes.taken.1
    exact ⟨x, cmd, env, y, v, m, htakes, rfl, hout, hpayload⟩
  | some record =>
    have hreplayed : exec w ⟨.check_out cmd, env⟩ x = (.ok (.payload record.response_body), x) :=
      Call.exec_of_recorded (show _ = some (Operation.check_out _, _) from rfl) hrecord
    have hkept : x.recorded (Operation.check_out cmd.site_visit_id).scope cmd.client_request_id =
        some record := hrecord
    cases hreturns.symm.trans hreplayed
    obtain ⟨before, after, rfl, hbefore, hserved, hafter⟩ := htakes
    rcases recorded_origin hbefore hkept with hinit |
      ⟨x', ⟨request, env'⟩, y', htakes', heffect⟩
    · have hmem := (Store.recorded_eq_some_iff.mp hinit).1
      rw [hrecords] at hmem
      cases hmem
    · have hoperation := heffect.operation
      cases request with
      | check_out cmd' =>
        obtain ⟨hop, v, m, hout, hpayload⟩ := heffect.checked_out htakes'.taken.1
        exact ⟨x', cmd', env', y', v, m, htakes'.trans (.cons hserved hafter),
          (Operation.check_out.inj hop).symm, hout, hpayload⟩
      | _ => cases hoperation

omit [LinearOrder F] [NatCast F] in
theorem CheckOutVisit.get_duration {v : SiteVisitModel F} {arrived : datetime}
    (harrived : v.checked_in_at = some arrived) :
    (CheckOutVisit.payload env v).get "presence_duration_seconds" =
      some (.float (total_seconds (env.now - arrived.instant))) := by
  have hfound : (CheckOutVisit.payload env v).get "presence_duration_seconds" =
      some (CheckOutVisit.duration_s v.checked_in_at (some (datetime.utc env.now))) := rfl
  rw [hfound, harrived, CheckOutVisit.duration_s, datetime.instant_aware, datetime.instant_aware,
    datetime.instant_utc]

/-- The duration a check-out answers is the time between the two it leaves on the visit. -/
theorem exists_duration (hvisits : init.site_visits.rows = [])
    (hrecords : init.idempotency_records.rows = []) {cmd : CheckOutCommand} {payload : Dict}
    (htakes : Takes (Served w) init calls s x ⟨.check_out cmd, env⟩ y)
    (hreturns : exec w ⟨.check_out cmd, env⟩ x = (.ok (.payload payload), y)) :
    ∃ (arrival : CheckIn F) (confirmation : Confirmation F arrival.mode) (departure : datetime),
      s.Holds (.completed arrival confirmation departure) ∧ arrival.visit_id = cmd.site_visit_id ∧
      payload.get "presence_duration_seconds" =
        some (.float (total_seconds (departure.instant - arrival.time.instant))) := by
  obtain ⟨x', cmd', env', y', v, m, htakes', hid, hout, rfl⟩ := exists_check_out hrecords htakes hreturns
  obtain ⟨earlier, -, hearlier⟩ := htakes'.before
  obtain ⟨later, hlater⟩ := htakes'.after
  obtain ⟨arrival, confirmation, rfl, -, hnew, -⟩ := hout.refines (filed_of_run hearlier hvisits)
  obtain ⟨d', hd', hgrows⟩ :=
    grows_of_run hlater (filed_of_run (hearlier.snoc htakes'.taken) hvisits) hnew
  obtain rfl := hgrows.eq_of_completed rfl
  refine ⟨arrival, confirmation, _, hd', ?_, ?_⟩
  · rw [← hid]
    exact Table.key_of_get hout.admits.visit
  · rw [CheckOutVisit.get_duration rfl, datetime.instant_stored]
    rfl

/-- In every run from a store without visits or records, under a clock that never goes
back, and for every stored visit: it began inside the window its mission then had; its
event is on time for the way the host confirmed; it closed no earlier than that; and every
answered check-out of it gives the time between its arrival and its departure. -/
theorem visit_timeline (hvisits : init.site_visits.rows = [])
    (hrecords : init.idempotency_records.rows = []) (hclock : ClockForward calls)
    (hrun : Run w init calls s) {v : SiteVisitModel F} (hv : v ∈ s.site_visits.rows) :
    ∃ arrived, v.checked_in_at = some arrived ∧
      (∃ x cmd env y m, Takes (Served w) init calls s x ⟨.check_in cmd, env⟩ y ∧
        (∀ u ∈ x.site_visits.rows, u.id ≠ v.id) ∧ (∃ u ∈ y.site_visits.rows, u.id = v.id) ∧
        x.missions.get v.mission_id = some m ∧ in_window arrived m.window_start m.window_end) ∧
      (∀ e ∈ s.events_of v.id, arrived ≤ e.validated_at ∧
        ∃ x cmd env y m mode, Takes (Served w) init calls s x ⟨.confirm_host cmd, env⟩ y ∧
          e ∉ x.copresence_events.rows ∧ e ∈ y.copresence_events.rows ∧
          x.missions.get v.mission_id = some m ∧ v.host_validation_mode = some mode ∧
          ConfirmHostPresence.OnTime cmd m arrived e.validated_at mode) ∧
      (∀ departed, v.checked_out_at = some departed →
        ∃ e, s.events_of v.id = [e] ∧ e.validated_at ≤ departed) ∧
      ∀ x cmd env y payload, Takes (Served w) init calls s x ⟨.check_out cmd, env⟩ y →
        cmd.site_visit_id = v.id → exec w ⟨.check_out cmd, env⟩ x = (.ok (.payload payload), y) →
        ∃ departed, v.checked_out_at = some departed ∧
          payload.get "presence_duration_seconds" =
            some (.float (total_seconds (departed.instant - arrived.instant))) ∧
          0 ≤ total_seconds (departed.instant - arrived.instant) := by
  obtain ⟨d, rfl, hd⟩ := filed_of_run hrun hvisits v hv
  obtain ⟨now, horder⟩ := chronological_of_run hvisits hclock hrun hd
  have hevents : s.events_of d.visit.id = d.events := by
    rw [Store.events_of, d.id_visit]
    exact hd.events
  rw [hevents, d.mission_id_visit]
  refine ⟨d.arrival.time, d.checked_in_at_visit, ?_, ?_, ?_, ?_⟩
  · obtain ⟨x, cmd, env, y, m, est, visit, htakes, hin, hnew, harrival⟩ := exists_arrival hvisits hrun hd
    obtain ⟨earlier, -, hearlier⟩ := htakes.before
    obtain ⟨hopened, -⟩ := hin.refines (filed_of_run hearlier hvisits) htakes.taken.1
    rw [d.id_visit]
    refine ⟨x, cmd, env, y, m, htakes, hnew, ⟨_, hopened.visit, ?_⟩, ?_, ?_⟩
    · rw [harrival]
      rfl
    · rw [harrival]
      exact hin.admits.mission
    · rw [harrival]
      exact in_window_stored_iff.mpr hin.admits.window
  · intro e he
    obtain ⟨x, cmd, env, y, m, htakes, hx, hy, hmission, hon_time⟩ :=
      exists_confirmation_on_time hvisits hclock hrun hd he
    exact ⟨horder.arrival_le he, x, cmd, env, y, m, _, htakes, hx, hy, hmission, d.mode_visit, hon_time⟩
  · intro departed hdeparted
    exact horder.le_departure hdeparted
  · intro x cmd env y payload htakes hid hreturns
    obtain ⟨arrival, confirmation, departure, hclosed, hvisit, hduration⟩ :=
      exists_duration hvisits hrecords htakes hreturns
    obtain rfl : Dossier.completed arrival confirmation departure = d := by
      refine hclosed.unique hd (hclosed.visit_eq hd.visit ?_)
      exact hvisit.trans hid
    refine ⟨departure, rfl, hduration, ?_⟩
    have hle : arrival.time.instant ≤ departure.instant := le_trans horder.1 horder.2.1
    exact div_nonneg (Int.cast_nonneg (Int.sub_nonneg.mpr hle)) (by norm_num)

/-- The confirmation at the pilot site came after the arrival. -/
theorem pilot_visit_timeline : ∃ arrived, pilot.confirmed_visit.checked_in_at = some arrived ∧
    ∀ e ∈ (pilot.confirmed "host").events_of pilot.confirmed_visit.id, arrived ≤ e.validated_at := by
  have hclock : ClockForward [⟨.check_in (pilot.arrive "arrive-1"), pilot.surroundings "1" 10⟩,
      ⟨.confirm_host (pilot.confirm "host" "confirm-1"), pilot.surroundings "2" 20⟩] := by
    refine ⟨?_, List.pairwise_pair.mpr (show (10 : Int) ≤ 20 by decide)⟩
    intro call hcall
    rcases List.mem_cons.mp hcall with rfl | hcall
    · exact le_rfl
    · rw [List.mem_singleton.mp hcall]
      exact le_rfl
  obtain ⟨arrived, harrived, -, hevents, -⟩ := visit_timeline rfl rfl hclock (pilot.run_confirmed "host")
    (v := pilot.confirmed_visit) (List.mem_singleton.mpr rfl)
  exact ⟨arrived, harrived, fun e he => (hevents e he).1⟩

end sigis
