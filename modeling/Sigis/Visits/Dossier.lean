import Sigis.Requests.Frames

open guarded relational transactional transition

namespace sigis

/-! A visit is a dossier that only ever grows: the inspector's arrival, then the
host's confirmation, then the departure. The four tables of a visit are pictures of its
dossier. -/

/-- The arrival of the inspector. -/
@[ext] structure CheckIn (F : Type) where
  visit_id : UUID
  mission_id : UUID
  proof_id : UUID
  inspector_id : UUID
  mode : HostValidationMode
  time : datetime
  latitude : F
  longitude : F
  geofence : GeofenceStatus

/-- The confirmation by a host, with the position it sets on the visit: there is one
exactly when the mode compares two positions. -/
@[ext] structure Confirmation (F : Type) (mode : HostValidationMode) where
  proof_id : UUID
  event_id : UUID
  host_user_id : UUID
  time : datetime
  latitude : F
  longitude : F
  position : Option (F × F)
  position_iff : position.isSome ↔ mode = .APP_GPS

inductive Dossier (F : Type)
  | pending (arrival : CheckIn F)
  | validated (arrival : CheckIn F) (confirmation : Confirmation F arrival.mode)
  | completed (arrival : CheckIn F) (confirmation : Confirmation F arrival.mode)
      (departure : datetime)

/-- A dossier grows by a confirmation, then by a departure. -/
inductive Dossier.Advances {F : Type} : Dossier F → Dossier F → Prop
  | confirm {arrival confirmation} :
      Dossier.Advances (.pending arrival) (.validated arrival confirmation)
  | close {arrival confirmation departure} :
      Dossier.Advances (.validated arrival confirmation)
        (.completed arrival confirmation departure)

variable {F : Type}

def CheckIn.visit (arrival : CheckIn F) : SiteVisitModel F where
  id := arrival.visit_id
  mission_id := arrival.mission_id
  status := .PENDING_HOST
  host_validation_mode := some arrival.mode
  checked_in_at := some arrival.time
  inspector_lat := some arrival.latitude
  inspector_lon := some arrival.longitude

def CheckIn.proof (arrival : CheckIn F) : PresenceProofModel F where
  id := arrival.proof_id
  site_visit_id := arrival.visit_id
  actor_user_id := arrival.inspector_id
  recorded_at := arrival.time
  latitude := arrival.latitude
  longitude := arrival.longitude
  geofence_status := arrival.geofence

/-- The visit with a confirmation on it. -/
def Confirmation.visit {arrival : CheckIn F} (confirmation : Confirmation F arrival.mode) :
    SiteVisitModel F :=
  { arrival.visit with
    status := .COPRESENCE_OK
    host_lat := confirmation.position.map Prod.fst
    host_lon := confirmation.position.map Prod.snd }

def Confirmation.proof {arrival : CheckIn F} (confirmation : Confirmation F arrival.mode) :
    PresenceProofModel F where
  id := confirmation.proof_id
  site_visit_id := arrival.visit_id
  actor_user_id := confirmation.host_user_id
  recorded_at := confirmation.time
  latitude := confirmation.latitude
  longitude := confirmation.longitude
  geofence_status := .OK

def Confirmation.event {arrival : CheckIn F} (confirmation : Confirmation F arrival.mode) :
    CoPresenceEventModel where
  id := confirmation.event_id
  site_visit_id := arrival.visit_id
  validated_at := confirmation.time
  host_validation_mode := arrival.mode

namespace Dossier

def arrival : Dossier F → CheckIn F
  | pending arrival => arrival
  | validated arrival _ => arrival
  | completed arrival _ _ => arrival

def visit : Dossier F → SiteVisitModel F
  | pending arrival => arrival.visit
  | validated _ confirmation => confirmation.visit
  | completed _ confirmation departure =>
    { confirmation.visit with status := .COMPLETED, checked_out_at := some departure }

def proofs : Dossier F → List (PresenceProofModel F)
  | pending arrival => [arrival.proof]
  | validated arrival confirmation => [arrival.proof, confirmation.proof]
  | completed arrival confirmation _ => [arrival.proof, confirmation.proof]

def events : Dossier F → List CoPresenceEventModel
  | pending _ => []
  | validated _ confirmation => [confirmation.event]
  | completed _ confirmation _ => [confirmation.event]

variable (d : Dossier F)

@[simp] theorem id_visit : d.visit.id = d.arrival.visit_id := by cases d <;> rfl

@[simp] theorem mission_id_visit : d.visit.mission_id = d.arrival.mission_id := by cases d <;> rfl

theorem inspector_lat_visit : d.visit.inspector_lat = some d.arrival.latitude := by cases d <;> rfl

theorem inspector_lon_visit : d.visit.inspector_lon = some d.arrival.longitude := by cases d <;> rfl

theorem checked_in_at_visit : d.visit.checked_in_at = some d.arrival.time := by cases d <;> rfl

theorem mode_visit : d.visit.host_validation_mode = some d.arrival.mode := by cases d <;> rfl

theorem status_visit_ne_scheduled : d.visit.status ≠ .SCHEDULED := by
  cases d <;> simp [visit, CheckIn.visit, Confirmation.visit]

/-- Only a pending dossier has a pending visit. -/
theorem eq_pending (h : d.visit.status = .PENDING_HOST) : d = .pending d.arrival := by
  cases d with
  | pending => rfl
  | validated | completed => simp [visit, Confirmation.visit] at h

/-- Only a validated dossier has a visit that can be closed. -/
theorem eq_validated (h : d.visit.status = .COPRESENCE_OK) :
    ∃ arrival confirmation, d = .validated arrival confirmation := by
  cases d with
  | validated arrival confirmation => exact ⟨arrival, confirmation, rfl⟩
  | pending => simp [visit, CheckIn.visit] at h
  | completed => simp [visit] at h

theorem arrival_eq_of_proof {arrival arrival' : CheckIn F}
    (hmission : arrival.mission_id = arrival'.mission_id) (hmode : arrival.mode = arrival'.mode)
    (hproof : arrival.proof = arrival'.proof) : arrival = arrival' := by
  simp only [CheckIn.proof, PresenceProofModel.mk.injEq] at hproof
  grind [CheckIn.ext]

theorem confirmation_eq_of_rows {arrival : CheckIn F}
    {confirmation confirmation' : Confirmation F arrival.mode}
    (hlat : confirmation.visit.host_lat = confirmation'.visit.host_lat)
    (hlon : confirmation.visit.host_lon = confirmation'.visit.host_lon)
    (hproof : confirmation.proof = confirmation'.proof)
    (hevent : confirmation.event = confirmation'.event) : confirmation = confirmation' := by
  have hid : confirmation.event_id = confirmation'.event_id := congrArg CoPresenceEventModel.id hevent
  change confirmation.position.map Prod.fst = confirmation'.position.map Prod.fst at hlat
  change confirmation.position.map Prod.snd = confirmation'.position.map Prod.snd at hlon
  have hposition : confirmation.position = confirmation'.position := by
    cases hp : confirmation.position <;> cases hp' : confirmation'.position <;>
      simp_all [Prod.ext_iff]
  simp only [Confirmation.proof, PresenceProofModel.mk.injEq] at hproof
  grind [Confirmation.ext]

theorem ext_of_rows {d d' : Dossier F} (hvisit : d.visit = d'.visit) (hproofs : d.proofs = d'.proofs)
    (hevents : d.events = d'.events) : d = d' := by
  have hstatus := congrArg SiteVisitModel.status hvisit
  have hmission : d.arrival.mission_id = d'.arrival.mission_id := by
    rw [← d.mission_id_visit, ← d'.mission_id_visit, hvisit]
  have hmode : some d.arrival.mode = some d'.arrival.mode := by
    rw [← d.mode_visit, ← d'.mode_visit, hvisit]
  have harrival : d.arrival.proof = d'.arrival.proof → d.arrival = d'.arrival :=
    arrival_eq_of_proof hmission (Option.some.inj hmode)
  cases d with
  | pending arrival =>
    cases d' with
    | pending arrival' =>
      obtain rfl : arrival = arrival' := harrival (List.cons.inj hproofs).1
      rfl
    | validated | completed => cases hevents
  | validated arrival confirmation =>
    cases d' with
    | pending => cases hevents
    | validated arrival' confirmation' =>
      obtain ⟨hproof, hrest⟩ := List.cons.inj hproofs
      obtain rfl : arrival = arrival' := harrival hproof
      have hlat := congrArg SiteVisitModel.host_lat hvisit
      have hlon := congrArg SiteVisitModel.host_lon hvisit
      rw [confirmation_eq_of_rows hlat hlon (List.cons.inj hrest).1 (List.cons.inj hevents).1]
    | completed => cases hstatus
  | completed arrival confirmation departure =>
    cases d' with
    | pending => cases hevents
    | validated => cases hstatus
    | completed arrival' confirmation' departure' =>
      obtain ⟨hproof, hrest⟩ := List.cons.inj hproofs
      obtain rfl : arrival = arrival' := harrival hproof
      have hdeparture : departure = departure' :=
        Option.some.inj (congrArg SiteVisitModel.checked_out_at hvisit)
      have hlat := congrArg SiteVisitModel.host_lat hvisit
      have hlon := congrArg SiteVisitModel.host_lon hvisit
      rw [hdeparture, confirmation_eq_of_rows hlat hlon (List.cons.inj hrest).1
        (List.cons.inj hevents).1]

end Dossier

/-- The store holds a dossier: its visit, exactly its proofs and events, and its mission
with the inspector who arrived. -/
structure Store.Holds (s : Store F) (d : Dossier F) : Prop where
  visit : d.visit ∈ s.site_visits.rows
  proofs : (s.presence_proofs.rows.filter fun p => p.site_visit_id = d.arrival.visit_id) = d.proofs
  events : (s.copresence_events.rows.filter fun e => e.site_visit_id = d.arrival.visit_id) = d.events
  mission : ∃ m, s.missions.get d.arrival.mission_id = some m ∧
    m.inspector_id = d.arrival.inspector_id

/-- Every stored visit is the visit of a dossier the store holds. -/
def Store.Filed (s : Store F) : Prop := ∀ v ∈ s.site_visits.rows, ∃ d, d.visit = v ∧ s.Holds d

theorem Store.filed_of_no_visits {s : Store F} (h : s.site_visits.rows = []) : s.Filed := by
  intro v hv
  rw [h] at hv
  cases hv

variable [LinearOrder F] [NatCast F] {w : World F} {call : Call F} {env : Env} {s t : Store F}
  {r : Response F} {d : Dossier F}

omit [LinearOrder F] [NatCast F] in
/-- A dossier is held as long as nothing is written to its rows. -/
theorem Store.Holds.frame (h : s.Holds d)
    (hmissions : ∀ {id m}, s.missions.get id = some m →
      ∃ m', t.missions.get id = some m' ∧ m.Evolves m')
    (hvisit : d.visit ∈ t.site_visits.rows)
    (hproofs : (t.presence_proofs.rows.filter fun p => p.site_visit_id = d.arrival.visit_id) =
      s.presence_proofs.rows.filter fun p => p.site_visit_id = d.arrival.visit_id)
    (hevents : (t.copresence_events.rows.filter fun e => e.site_visit_id = d.arrival.visit_id) =
      s.copresence_events.rows.filter fun e => e.site_visit_id = d.arrival.visit_id) :
    t.Holds d := by
  obtain ⟨m, hm, hinspector⟩ := h.mission
  obtain ⟨m', hm', hevolves⟩ := hmissions hm
  exact ⟨hvisit, hproofs.trans h.proofs, hevents.trans h.events, m', hm',
    hevolves.inspector_id.trans hinspector⟩

omit [LinearOrder F] [NatCast F] in
/-- The rows of a dossier determine it. -/
theorem Store.Holds.unique {d' : Dossier F} (h : s.Holds d) (h' : s.Holds d')
    (hvisit : d.visit = d'.visit) : d = d' := by
  have hid : d.arrival.visit_id = d'.arrival.visit_id := by
    rw [← d.id_visit, ← d'.id_visit, hvisit]
  have hproofs : d.proofs = d'.proofs := by rw [← h.proofs, ← h'.proofs, hid]
  have hevents : d.events = d'.events := by rw [← h.events, ← h'.events, hid]
  exact Dossier.ext_of_rows hvisit hproofs hevents

omit [LinearOrder F] [NatCast F] in
theorem Store.Holds.visit_eq (h : s.Holds d) {v : SiteVisitModel F} (hv : v ∈ s.site_visits.rows)
    (hid : d.arrival.visit_id = v.id) : d.visit = v :=
  s.site_visits.eq_of_key h.visit hv ((d.id_visit).trans hid)

omit [LinearOrder F] [NatCast F] in
/-- A fresh identifier is not the visit of a dossier. -/
theorem Store.Holds.visit_id_ne (h : s.Holds d) (hfresh : env.Fresh s) :
    env.visit_id ≠ d.arrival.visit_id := by
  intro heq
  have hid : Row.key d.visit = env.visit_id := d.id_visit.trans heq.symm
  have hget := Table.get_of_mem h.visit
  rw [hid, hfresh.visit_id] at hget
  cases hget

/-- The arrival a check-in records. -/
def CheckInInspector.arrival (w : World F) (env : Env) (cmd : CheckInInspectorCommand F)
    (est : EstablishmentModel F) : CheckIn F where
  visit_id := env.visit_id
  mission_id := cmd.mission_id
  proof_id := env.proof_id
  inspector_id := cmd.inspector_user_id
  mode := cmd.host_validation_mode
  time := (datetime.utc env.now).stored
  latitude := cmd.latitude
  longitude := cmd.longitude
  geofence := CheckInInspector.geofence w cmd est

section check_in

variable {cmd : CheckInInspectorCommand F} {m : MissionModel} {est : EstablishmentModel F}
  {visit : SiteVisit F}

omit [NatCast F] in
/-- In a filed store a check-in finds no visit of its mission. -/
theorem CheckedIn.no_visit (h : CheckedIn w env cmd s m est visit t) (hfiled : s.Filed) :
    s.visit_of_mission cmd.mission_id = none := by
  cases hvisit : s.visit_of_mission cmd.mission_id with
  | none => rfl
  | some v =>
    obtain ⟨hv, -⟩ := Store.visit_of_mission_eq_some_iff.mp hvisit
    obtain ⟨d, rfl, -⟩ := hfiled v hv
    exact absurd (h.admits.visit _ hvisit) d.status_visit_ne_scheduled

omit [NatCast F] in
/-- The row a check-in adds is the visit of its arrival. -/
theorem CheckedIn.saved_row_eq (h : CheckedIn w env cmd s m est visit t) (hfiled : s.Filed)
    (hfresh : env.Fresh s) :
    visit.id = env.visit_id ∧ s.saved_row visit = (CheckInInspector.arrival w env cmd est).visit := by
  have hvisit := h.visit_eq
  rw [h.no_visit hfiled] at hvisit
  subst hvisit
  refine ⟨rfl, ?_⟩
  have hnew : s.site_visits.get (CheckInInspector.visit env cmd none).id = none := hfresh.visit_id
  unfold Store.saved_row
  rw [Option.map_none, hnew]
  rfl

omit [NatCast F] in
theorem CheckedIn.refines (h : CheckedIn w env cmd s m est visit t) (hfiled : s.Filed)
    (hfresh : env.Fresh s) :
    t.Holds (.pending (CheckInInspector.arrival w env cmd est)) ∧ (∀ d, s.Holds d → t.Holds d) ∧
      ∀ v ∈ t.site_visits.rows, v ∈ s.site_visits.rows ∨
        v = (CheckInInspector.arrival w env cmd est).visit := by
  obtain ⟨hid, hrow⟩ := h.saved_row_eq hfiled hfresh
  have hvisits : ∀ {x}, x ∈ t.site_visits.rows ↔ (x ∈ s.site_visits.rows ∧ x.id ≠ env.visit_id) ∨
      x = (CheckInInspector.arrival w env cmd est).visit := by
    intro x
    rw [h.visits.mem_iff, hrow, hid]
  have hproofs := h.proofs
  rw [hid] at hproofs
  have hevents : t.copresence_events = s.copresence_events := by rw [h.frame]
  have hmissions : t.missions = s.missions := by rw [h.frame]
  refine ⟨⟨hvisits.mpr (Or.inr rfl), ?_, ?_, m, ?_, h.admits.inspector⟩, ?_, ?_⟩
  · rw [Table.filter_insert_of_true hproofs (decide_eq_true rfl), List.filter_eq_nil_iff.mpr]
    · rfl
    · intro p hp
      rw [decide_eq_true_eq]
      exact Store.proof_visit_ne_of_not_mem (hfresh _ env.visit_id_mem) hp
  · rw [hevents]
    refine List.filter_eq_nil_iff.mpr ?_
    intro e he
    rw [decide_eq_true_eq]
    exact Store.event_visit_ne_of_not_mem (hfresh _ env.visit_id_mem) he
  · rw [hmissions]
    exact h.admits.mission
  · intro d hd
    have hne := hd.visit_id_ne hfresh
    refine hd.frame (by rw [hmissions]; exact fun hm => ⟨_, hm, .refl _⟩) (hvisits.mpr (Or.inl ⟨hd.visit, ?_⟩)) ?_ ?_
    · rw [d.id_visit]
      exact hne.symm
    · exact Table.filter_insert_of_false hproofs (decide_eq_false hne)
    · rw [hevents]
  · intro v hv
    exact (hvisits.mp hv).imp_left And.left

end check_in

/-- The confirmation a host gives in a mode that accepts it. -/
def ConfirmHostPresence.confirmation (env : Env) (cmd : ConfirmHostCommand F) {v : SiteVisitModel F}
    {m : MissionModel} {mode : HostValidationMode} {host : Option (F × F)} {consumed : List (Write F)}
    (haccepts : ConfirmHostPresence.Accepts w env cmd s v m mode host consumed)
    (latitude longitude : F) : Confirmation F mode where
  proof_id := env.proof_id
  event_id := env.event_id
  host_user_id := cmd.host_user_id
  time := (datetime.utc env.now).stored
  latitude := latitude
  longitude := longitude
  position := host
  position_iff := by cases haccepts <;> simp

section confirm_host

variable {cmd : ConfirmHostCommand F} {v : SiteVisitModel F} {m : MissionModel}
  {est : EstablishmentModel F} {mode : HostValidationMode} {host : Option (F × F)}
  {consumed : List (Write F)} {latitude longitude : F}

/-- A confirmation turns the pending dossier of its visit into a validated one, and
leaves the others. -/
theorem HostConfirmed.refines
    (h : HostConfirmed w env cmd s v m est mode host consumed latitude longitude t) (hfiled : s.Filed) :
    ∃ (arrival : CheckIn F) (confirmation : Confirmation F arrival.mode),
      arrival.visit = v ∧ confirmation.host_user_id = cmd.host_user_id ∧
      confirmation.position = host ∧
      s.Holds (.pending arrival) ∧ t.Holds (.validated arrival confirmation) ∧
      (∀ d, s.Holds d → d.visit ≠ v → t.Holds d) ∧
      ∀ x ∈ t.site_visits.rows, (x ∈ s.site_visits.rows ∧ x ≠ v) ∨ x = confirmation.visit := by
  have hv := Table.mem_of_get h.admits.visit
  obtain ⟨d, rfl, hd⟩ := hfiled v hv
  obtain ⟨arrival, rfl⟩ : ∃ arrival, d = .pending arrival := ⟨_, d.eq_pending h.admits.pending⟩
  have hmode : arrival.mode = mode := Option.some.inj h.admits.validation_mode
  subst hmode
  refine ⟨arrival, ConfirmHostPresence.confirmation env cmd h.admits.accepts latitude longitude,
    rfl, rfl, rfl, hd, ?_⟩
  generalize hconfirmation :
    ConfirmHostPresence.confirmation env cmd h.admits.accepts latitude longitude = confirmation
  have hrow : arrival.visit.assigned (ConfirmHostPresence.visit arrival.visit host) =
      confirmation.visit := by
    rw [SiteVisitModel.assigned_confirmed, ← hconfirmation]
    simp [CheckIn.visit, Confirmation.visit, ConfirmHostPresence.confirmation]
  have hproof : (new_presence_proof_row (ConfirmHostPresence.proof env cmd arrival.visit latitude
      longitude)).stored = confirmation.proof := by
    rw [← hconfirmation]
    rfl
  have hevent : (new_copresence_event_row (ConfirmHostPresence.event env arrival.visit)
      arrival.mode).stored = confirmation.event := by
    rw [← hconfirmation]
    rfl
  have hvisits := h.visits
  have hproofs := h.proofs
  have hevents := h.events
  rw [show (Dossier.pending arrival).visit = arrival.visit from rfl, hrow] at hvisits
  rw [show (Dossier.pending arrival).visit = arrival.visit from rfl, hproof] at hproofs
  rw [show (Dossier.pending arrival).visit = arrival.visit from rfl, hevent] at hevents
  have hmissions : t.missions = s.missions := by rw [h.frame]
  refine ⟨⟨hvisits.mem_iff.mpr (Or.inr rfl), ?_, ?_, ?_⟩, ?_, ?_⟩
  · rw [Table.filter_insert_of_true hproofs (decide_eq_true rfl)]
    exact congrArg (· ++ [confirmation.proof]) hd.proofs
  · rw [Table.filter_insert_of_true hevents (decide_eq_true rfl)]
    exact congrArg (· ++ [confirmation.event]) hd.events
  · rw [hmissions]
    exact hd.mission
  · intro d hd' hne
    have hid : d.arrival.visit_id ≠ arrival.visit_id := fun heq => hne (hd'.visit_eq hv heq)
    refine hd'.frame (by rw [hmissions]; exact fun hm => ⟨_, hm, .refl _⟩)
      (hvisits.mem_iff.mpr (Or.inl ⟨hd'.visit, ?_⟩)) ?_ ?_
    · rw [key_site_visit, d.id_visit]
      exact hid
    · exact Table.filter_insert_of_false hproofs (decide_eq_false hid.symm)
    · exact Table.filter_insert_of_false hevents (decide_eq_false hid.symm)
  · intro x hx
    refine (hvisits.mem_iff.mp hx).imp_left ?_
    rintro ⟨hx, hkey⟩
    exact ⟨hx, fun heq => hkey (congrArg Row.key heq)⟩

end confirm_host

section check_out

variable {cmd : CheckOutCommand} {v : SiteVisitModel F} {m : MissionModel}

omit [NatCast F] in
/-- A check-out turns the validated dossier of its visit into a completed one, and
leaves the others. -/
theorem CheckedOut.refines (h : CheckedOut env cmd s v m t) (hfiled : s.Filed) :
    ∃ (arrival : CheckIn F) (confirmation : Confirmation F arrival.mode),
      confirmation.visit = v ∧ s.Holds (.validated arrival confirmation) ∧
      t.Holds (.completed arrival confirmation (datetime.utc env.now).stored) ∧
      (∀ d, s.Holds d → d.visit ≠ v → t.Holds d) ∧
      ∀ x ∈ t.site_visits.rows, (x ∈ s.site_visits.rows ∧ x ≠ v) ∨
        x = (Dossier.completed arrival confirmation (datetime.utc env.now).stored).visit := by
  have hv := Table.mem_of_get h.admits.visit
  obtain ⟨d, rfl, hd⟩ := hfiled v hv
  obtain ⟨arrival, confirmation, rfl⟩ := d.eq_validated h.admits.validated
  have hvisits := h.visits
  rw [SiteVisitModel.assigned_checked_out _ env h.admits.open_visit] at hvisits
  have hproofs : t.presence_proofs = s.presence_proofs := by rw [h.frame]
  have hevents : t.copresence_events = s.copresence_events := by rw [h.frame]
  have hmissions : t.missions = s.missions := by rw [h.frame]
  refine ⟨arrival, confirmation, rfl, hd, ⟨hvisits.mem_iff.mpr (Or.inr rfl), ?_, ?_, ?_⟩, ?_, ?_⟩
  · rw [hproofs]
    exact hd.proofs
  · rw [hevents]
    exact hd.events
  · rw [hmissions]
    exact hd.mission
  · intro d hd' hne
    refine hd'.frame (by rw [hmissions]; exact fun hm => ⟨_, hm, .refl _⟩)
      (hvisits.mem_iff.mpr (Or.inl ⟨hd'.visit, ?_⟩)) ?_ ?_
    · exact fun hkey => hne (s.site_visits.eq_of_key hd'.visit hv hkey)
    · rw [hproofs]
    · rw [hevents]
  · intro x hx
    refine (hvisits.mem_iff.mp hx).imp_left ?_
    rintro ⟨hx, hkey⟩
    exact ⟨hx, fun heq => hkey (congrArg Row.key heq)⟩

end check_out

/-- What no request but the three visit requests writes to. -/
theorem Outcome.visit_tables (h : Outcome w call s r t) :
    (t.site_visits = s.site_visits ∧ t.presence_proofs = s.presence_proofs ∧
      t.copresence_events = s.copresence_events) ∨
    (∃ cmd m est visit, call.request = .check_in cmd ∧ CheckedIn w call.env cmd s m est visit t) ∨
    (∃ cmd v m est mode host consumed latitude longitude, call.request = .confirm_host cmd ∧
      HostConfirmed w call.env cmd s v m est mode host consumed latitude longitude t) ∨
    (∃ cmd v m, call.request = .check_out cmd ∧ CheckedOut call.env cmd s v m t) := by
  cases h with
  | check_in h => exact Or.inr (Or.inl ⟨_, _, _, _, rfl, h⟩)
  | confirm_host h => exact Or.inr (Or.inr (Or.inl ⟨_, _, _, _, _, _, _, _, _, rfl, h⟩))
  | check_out h => exact Or.inr (Or.inr (Or.inr ⟨_, _, _, rfl, h⟩))
  | _ => exact Or.inl ⟨rfl, rfl, rfl⟩

/-- A stored visit was there before, or was saved by one of the three visit requests. -/
theorem Outcome.visit_cases (h : Outcome w call s r t) {v : SiteVisitModel F} (hv : v ∈ t.site_visits.rows) :
    v ∈ s.site_visits.rows ∨
    (∃ cmd m est visit, call.request = .check_in cmd ∧ CheckedIn w call.env cmd s m est visit t ∧
      v = s.saved_row visit) ∨
    (∃ cmd confirmed m est mode host consumed latitude longitude, call.request = .confirm_host cmd ∧
      HostConfirmed w call.env cmd s confirmed m est mode host consumed latitude longitude t ∧
      v = confirmed.assigned (ConfirmHostPresence.visit confirmed host)) ∨
    (∃ cmd closed m, call.request = .check_out cmd ∧ CheckedOut call.env cmd s closed m t ∧
      v = closed.assigned (CheckOutVisit.visit call.env closed)) := by
  rcases h.visit_tables with ⟨hvisits, -⟩ | ⟨cmd, m, est, visit, hrequest, hin⟩ |
    ⟨cmd, confirmed, m, est, mode, host, consumed, latitude, longitude, hrequest, hconfirmed⟩ |
    ⟨cmd, closed, m, hrequest, hout⟩
  · rw [hvisits] at hv
    exact Or.inl hv
  · refine (hin.visits.mem_iff.mp hv).imp And.left fun heq => Or.inl ?_
    exact ⟨cmd, m, est, visit, hrequest, hin, heq⟩
  · refine (hconfirmed.visits.mem_iff.mp hv).imp And.left fun heq => Or.inr (Or.inl ?_)
    exact ⟨cmd, confirmed, m, est, mode, host, consumed, latitude, longitude, hrequest, hconfirmed, heq⟩
  · refine (hout.visits.mem_iff.mp hv).imp And.left fun heq => Or.inr (Or.inr ?_)
    exact ⟨cmd, closed, m, hrequest, hout, heq⟩

omit [LinearOrder F] [NatCast F] in
/-- Where one dossier advanced and the others stayed, every visit is filed still. -/
theorem Store.Filed.advance (hfiled : s.Filed) {old new : Dossier F} (hadvances : old.Advances new) (hold : s.Holds old)
    (hnew : t.Holds new) (hholds : ∀ d, s.Holds d → d.visit ≠ old.visit → t.Holds d)
    (hrows : ∀ x ∈ t.site_visits.rows, (x ∈ s.site_visits.rows ∧ x ≠ old.visit) ∨ x = new.visit) :
    t.Filed ∧ ∀ d, s.Holds d → t.Holds d ∨ ∃ d', d.Advances d' ∧ t.Holds d' := by
  refine ⟨?_, ?_⟩
  · intro x hx
    rcases hrows x hx with ⟨hx, hne⟩ | rfl
    · obtain ⟨d, rfl, hd⟩ := hfiled x hx
      exact ⟨d, rfl, hholds d hd hne⟩
    · exact ⟨new, rfl, hnew⟩
  · intro d hd
    by_cases hvisit : d.visit = old.visit
    · obtain rfl := hd.unique hold hvisit
      exact Or.inr ⟨new, hadvances, hnew⟩
    · exact Or.inl (hholds d hd hvisit)

/-- Every request advances the dossiers by at most one step each, and files every visit. -/
theorem Outcome.refines (h : Outcome w call s r t) (hfresh : call.env.Fresh s) (hfiled : s.Filed) :
    t.Filed ∧ ∀ d, s.Holds d → t.Holds d ∨ ∃ d', d.Advances d' ∧ t.Holds d' := by
  rcases h.visit_tables with ⟨hvisits, hproofs, hevents⟩ | ⟨cmd, m, est, visit, hrequest, hin⟩ |
    ⟨cmd, v, m, est, mode, host, consumed, latitude, longitude, hrequest, hconfirmed⟩ |
    ⟨cmd, v, m, hrequest, hout⟩
  · have hholds : ∀ d, s.Holds d → t.Holds d := by
      intro d hd
      refine hd.frame h.mission_evolves ?_ ?_ ?_
      · rw [hvisits]
        exact hd.visit
      · rw [hproofs]
      · rw [hevents]
    refine ⟨?_, fun d hd => Or.inl (hholds d hd)⟩
    intro v hv
    rw [hvisits] at hv
    obtain ⟨d, hdv, hd⟩ := hfiled v hv
    exact ⟨d, hdv, hholds d hd⟩
  · obtain ⟨hnew, hholds, hrows⟩ := hin.refines hfiled hfresh
    refine ⟨?_, fun d hd => Or.inl (hholds d hd)⟩
    intro v hv
    rcases hrows v hv with hv | rfl
    · obtain ⟨d, hdv, hd⟩ := hfiled v hv
      exact ⟨d, hdv, hholds d hd⟩
    · exact ⟨_, rfl, hnew⟩
  · obtain ⟨arrival, confirmation, rfl, _, _, hold, hnew, hholds, hrows⟩ := hconfirmed.refines hfiled
    exact hfiled.advance .confirm hold hnew hholds hrows
  · obtain ⟨arrival, confirmation, rfl, hold, hnew, hholds, hrows⟩ := hout.refines hfiled
    exact hfiled.advance .close hold hnew hholds hrows

/-- In every run from a store without visits, every stored visit is the visit of a
dossier. -/
theorem filed_of_run {init : Store F} {calls : List (Call F)} (hrun : Run w init calls s)
    (hempty : init.site_visits.rows = []) : s.Filed := by
  refine invariant_of_outcomes Store.Filed hrun (Store.filed_of_no_visits hempty) ?_
  intro s call r t hfiled hfresh houtcome
  exact (houtcome.refines hfresh hfiled).1

end sigis
