import Sigis.Idempotency.Operations
import Sigis.Lib.Overlap
import Sigis.Visits.Lifecycle

open guarded relational transactional transition

namespace sigis

/-! Confirmations and check-outs of one visit running side by side. Each reads the
committed store, and later applies its own column changes and inserts to the store as it
then is: no row is locked, and no version is compared. -/

/-- What overlapping requests write of one visit: its status and departure, and the
identifiers of its proofs and events. -/
structure Sheet where
  status : Option SiteVisitStatus
  checked_out_at : Option datetime
  proofs : List UUID
  events : List UUID

def Store.sheet {F : Type} (s : Store F) (site_visit_id : UUID) : Sheet where
  status := (s.site_visits.get site_visit_id).map fun v => v.status
  checked_out_at := (s.site_visits.get site_visit_id).bind fun v => v.checked_out_at
  proofs := (s.proofs_of site_visit_id).map fun p => p.id
  events := (s.events_of site_visit_id).map fun e => e.id

variable {F : Type}

/-- What a confirmation or a check-out makes of the sheet of its visit. -/
def Call.effect (call : Call F) (sheet : Sheet) : Sheet :=
  match call.request with
  | .confirm_host _ =>
    { sheet with
      status := some .COPRESENCE_OK
      proofs := sheet.proofs ++ [call.env.proof_id]
      events := sheet.events ++ [call.env.event_id] }
  | .check_out _ =>
    { sheet with
      status := some .COMPLETED
      checked_out_at := some (datetime.utc call.env.now).stored }
  | _ => sheet

/-- The request confirms or closes the visit. -/
inductive Call.OnVisit (site_visit_id : UUID) : Call F → Prop
  | confirm_host {cmd : ConfirmHostCommand F} {env} : cmd.site_visit_id = site_visit_id →
      Call.OnVisit site_visit_id ⟨.confirm_host cmd, env⟩
  | check_out {cmd : CheckOutCommand} {env} : cmd.site_visit_id = site_visit_id →
      Call.OnVisit site_visit_id ⟨.check_out cmd, env⟩

def Call.confirms (call : Call F) : Bool :=
  match call.request with
  | .confirm_host _ => true
  | _ => false

section reads

variable [LinearOrder F] [NatCast F] {w : World F} {env : Env} {s : Store F} {answer : Response F}
  {writes : List (Write F)}

/-- A confirmation prepares nothing, or what an admitted confirmation writes. -/
theorem prepare_confirm_host_cases {cmd : ConfirmHostCommand F}
    (h : Call.prepare w ⟨.confirm_host cmd, env⟩ s = .ok (answer, writes)) :
    writes = [] ∨ ∃ v m est mode host consumed latitude longitude,
      ConfirmHostPresence.Admits w env cmd s v m est mode host consumed latitude longitude ∧
      answer = .payload (ConfirmHostPresence.payload v) ∧
      writes = (consumed ++ [.update_site_visit v
          (apply_site_visit_to_row (ConfirmHostPresence.visit v host) v),
        PresenceProofRepositoryImpl.add (ConfirmHostPresence.proof env cmd v latitude longitude),
        CoPresenceEventRepositoryImpl.add (ConfirmHostPresence.event env v) mode]) ++
          [IdempotencyRepositoryImpl.save cmd.scope cmd.client_request_id (ConfirmHostPresence.payload v)
            env.record_id env.saved_at] := by
  obtain ⟨payload, hexecute, rfl⟩ := map_payload_eq_ok_iff.mp h
  rcases idempotent_eq_ok_iff.mp hexecute with ⟨_, _, _, rfl⟩ | ⟨_, effects, hbody, rfl⟩
  · exact Or.inl rfl
  · obtain ⟨v, m, est, mode, host, consumed, latitude, longitude, hadmits, rfl, rfl⟩ :=
      ConfirmHostPresence.body_eq_ok_iff.mp hbody
    refine Or.inr ⟨v, m, est, mode, host, consumed, latitude, longitude, hadmits, rfl, ?_⟩
    rw [ConfirmHostPresence.save_eq (Table.mem_of_get hadmits.visit)]

/-- A check-out prepares nothing, or what an admitted check-out writes. -/
theorem prepare_check_out_cases {cmd : CheckOutCommand}
    (h : Call.prepare w ⟨.check_out cmd, env⟩ s = .ok (answer, writes)) :
    writes = [] ∨ ∃ v m, CheckOutVisit.Admits cmd s v m ∧
      answer = .payload (CheckOutVisit.payload env v) ∧
      writes = [.update_site_visit v (apply_site_visit_to_row (CheckOutVisit.visit env v) v),
        IdempotencyRepositoryImpl.save cmd.scope cmd.client_request_id (CheckOutVisit.payload env v)
          env.record_id env.saved_at] := by
  obtain ⟨payload, hexecute, rfl⟩ := map_payload_eq_ok_iff.mp h
  rcases idempotent_eq_ok_iff.mp hexecute with ⟨_, _, _, rfl⟩ | ⟨_, effects, hbody, rfl⟩
  · exact Or.inl rfl
  · obtain ⟨v, m, hadmits, rfl, rfl⟩ := CheckOutVisit.body_eq_ok_iff.mp hbody
    refine Or.inr ⟨v, m, hadmits, rfl, ?_⟩
    rw [CheckOutVisit.save_eq (Table.mem_of_get hadmits.visit)]
    rfl

end reads

section commits

variable [DecidableEq F] {t u : Store F} {rest : List (Write F)} {V : UUID}

/-- A visit loaded earlier is flushed over the row as it is now: only the columns given
another value are written. -/
theorem Store.flush_of_commit_update {loaded written : SiteVisitModel F}
    (hcommit : t.commit (.update_site_visit loaded written :: rest) = some u) :
    ∃ x visits, t.site_visits.get loaded.id = some x ∧
      visits.get loaded.id = some (SiteVisitModel.flush loaded written x) ∧
      Store.commit { t with site_visits := visits } rest = some u := by
  obtain ⟨t', happly, hrest⟩ := Store.commit_cons_eq_some_iff.mp hcommit
  obtain ⟨visits, hvisits, rfl⟩ := Option.map_eq_some_iff.mp happly
  obtain ⟨x, hx⟩ := Table.get_isSome_of_update hvisits
  refine ⟨x, visits, hx, ?_, hrest⟩
  rw [Table.get_update (SiteVisitModel.keeps_flush loaded written) hvisits, if_pos rfl, hx]
  rfl

end commits

section effects

variable [LinearOrder F] [NatCast F] {w : World F} {env : Env} {s t u : Store F} {site_visit_id : UUID}

/-- Whatever the store has become, a confirmation that commits confirms the visit again,
and adds one proof and one event. -/
theorem ConfirmHostPresence.Admits.sheet_of_commit {cmd : ConfirmHostCommand F} {v : SiteVisitModel F}
    {m : MissionModel} {est : EstablishmentModel F} {mode : HostValidationMode} {host : Option (F × F)}
    {consumed : List (Write F)} {latitude longitude : F}
    (h : ConfirmHostPresence.Admits w env cmd s v m est mode host consumed latitude longitude)
    {scope client_request_id : String} {payload : Dict} (hcommit : t.commit
      ((consumed ++ [.update_site_visit v (apply_site_visit_to_row (ConfirmHostPresence.visit v host) v),
        PresenceProofRepositoryImpl.add (ConfirmHostPresence.proof env cmd v latitude longitude),
        CoPresenceEventRepositoryImpl.add (ConfirmHostPresence.event env v) mode]) ++
          [IdempotencyRepositoryImpl.save scope client_request_id payload env.record_id env.saved_at]) =
            some u) :
    u.sheet cmd.site_visit_id =
      { t.sheet cmd.site_visit_id with
        status := some .COPRESENCE_OK
        proofs := (t.sheet cmd.site_visit_id).proofs ++ [env.proof_id]
        events := (t.sheet cmd.site_visit_id).events ++ [env.event_id] } := by
  have hid : v.id = cmd.site_visit_id := Table.key_of_get h.visit
  rw [List.append_assoc, Store.commit_append] at hcommit
  obtain ⟨t', hconsumed, hrest⟩ := Option.bind_eq_some_iff.mp hcommit
  obtain ⟨jtis, rfl⟩ := h.accepts.commit_eq hconsumed
  obtain ⟨x, visits, hx, hvisits, hrest⟩ := Store.flush_of_commit_update hrest
  obtain ⟨proofs, hproofs, hrest⟩ := Store.commit_add_presence_proof.mp hrest
  obtain ⟨events, hevents, hrest⟩ := Store.commit_add_copresence_event.mp hrest
  obtain ⟨records, _, hnil⟩ := Store.commit_add_idempotency_record.mp hrest
  cases hnil
  rw [hid] at hx hvisits
  have hproof : (new_presence_proof_row (ConfirmHostPresence.proof env cmd v latitude
      longitude)).stored.site_visit_id = cmd.site_visit_id := hid
  have hevent : (new_copresence_event_row (ConfirmHostPresence.event env v) mode).stored.site_visit_id =
      cmd.site_visit_id := hid
  have hstatus : (ConfirmHostPresence.visit v host).status ≠ v.status := by
    rw [h.pending]
    exact show SiteVisitStatus.COPRESENCE_OK ≠ .PENDING_HOST by decide
  have hdeparture : (ConfirmHostPresence.visit v host).checked_out_at = v.checked_out_at := by
    cases host <;> rfl
  simp only [Store.sheet, Sheet.mk.injEq]
  refine ⟨?_, ?_, ?_, ?_⟩
  · rw [hvisits]
    simp only [SiteVisitModel.flush, apply_site_visit_to_row, column_changed hstatus, Option.map_some]
    rfl
  · rw [hvisits, hx]
    simp only [SiteVisitModel.flush, apply_site_visit_to_row, hdeparture, bound_column_unchanged,
      Option.bind_some]
  · rw [Store.proofs_of, Table.filter_insert_of_true hproofs (decide_eq_true hproof), List.map_append]
    rfl
  · rw [Store.events_of, Table.filter_insert_of_true hevents (decide_eq_true hevent), List.map_append]
    rfl

omit [NatCast F] in
/-- Whatever the store has become, a check-out that commits closes the visit at its own
time. -/
theorem CheckOutVisit.Admits.sheet_of_commit {cmd : CheckOutCommand} {v : SiteVisitModel F}
    {m : MissionModel} (h : CheckOutVisit.Admits cmd s v m)
    {scope client_request_id : String} {payload : Dict} (hcommit : t.commit
      [.update_site_visit v (apply_site_visit_to_row (CheckOutVisit.visit env v) v),
        IdempotencyRepositoryImpl.save scope client_request_id payload env.record_id env.saved_at] =
          some u) :
    u.sheet cmd.site_visit_id =
      { t.sheet cmd.site_visit_id with
        status := some .COMPLETED
        checked_out_at := some (datetime.utc env.now).stored } := by
  have hid : v.id = cmd.site_visit_id := Table.key_of_get h.visit
  obtain ⟨x, visits, hx, hvisits, hrest⟩ := Store.flush_of_commit_update hcommit
  obtain ⟨records, _, hnil⟩ := Store.commit_add_idempotency_record.mp hrest
  cases hnil
  rw [hid] at hx hvisits
  have hstatus : (CheckOutVisit.visit env v).status ≠ v.status := by
    rw [h.validated]
    exact show SiteVisitStatus.COMPLETED ≠ .COPRESENCE_OK by decide
  have hdeparture : (CheckOutVisit.visit env v).checked_out_at ≠ v.checked_out_at := by
    rw [h.open_visit]
    exact Option.some_ne_none _
  simp only [Store.sheet, hvisits, SiteVisitModel.flush, apply_site_visit_to_row, column_changed hstatus,
    bound_column_changed hdeparture]
  rfl

variable {ι : Type} {request : ι → Call F}

/-- Each commit of a request on the visit has its effect on the sheet as it then is. -/
theorem effects_on_visit (hvisit : ∀ i, (request i).OnVisit site_visit_id) :
    Effects (database w) request (fun writes => writes ≠ []) (fun s => s.sheet site_visit_id)
      (fun i => (request i).effect) where
  applied := by
    intro i s answer writes t u hprepare heffective hcommit
    change (request i).prepare w s = _ at hprepare
    have hi := hvisit i
    generalize request i = call at hi hprepare ⊢
    cases hi with
    | confirm_host hid =>
      subst hid
      rcases prepare_confirm_host_cases hprepare with rfl | ⟨v, m, est, mode, host, consumed, latitude,
        longitude, hadmits, rfl, rfl⟩
      · exact absurd rfl heffective
      · exact hadmits.sheet_of_commit hcommit
    | check_out hid =>
      subst hid
      rcases prepare_check_out_cases hprepare with rfl | ⟨v, m, hadmits, rfl, rfl⟩
      · exact absurd rfl heffective
      · exact hadmits.sheet_of_commit hcommit
  idle := by
    intro i s answer writes t u _ hidle hcommit
    rw [not_not.mp hidle] at hcommit
    cases hcommit
    rfl

end effects

end sigis
