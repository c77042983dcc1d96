import Sigis.Concurrency.Sheet
import Sigis.Requests.Progress

open guarded relational transactional transition

namespace sigis

/-- The host has confirmed. -/
def Sheet.Validated (sheet : Sheet) : Prop :=
  sheet.status = some .COPRESENCE_OK ∨ sheet.status = some .COMPLETED

/-- The inspector has left. -/
def Sheet.Departed (sheet : Sheet) : Prop := sheet.checked_out_at ≠ none

section sheets

variable {F ι : Type} {request : ι → Call F} {V : UUID} {call : Call F} {sheet : Sheet}

theorem Call.OnVisit.validated_effect (h : call.OnVisit V) : (call.effect sheet).Validated := by
  cases h with
  | confirm_host => exact Or.inl rfl
  | check_out => exact Or.inr rfl

theorem Call.OnVisit.events_effect (h : call.OnVisit V) :
    (call.effect sheet).events = sheet.events ++ if call.confirms then [call.env.event_id] else [] := by
  cases h with
  | confirm_host => rfl
  | check_out => exact (List.append_nil _).symm

theorem Call.OnVisit.proofs_effect (h : call.OnVisit V) :
    (call.effect sheet).proofs = sheet.proofs ++ if call.confirms then [call.env.proof_id] else [] := by
  cases h with
  | confirm_host => rfl
  | check_out => exact (List.append_nil _).symm

theorem Call.OnVisit.departure_effect (h : call.OnVisit V) :
    (call.effect sheet).checked_out_at =
      if call.confirms then sheet.checked_out_at else some (datetime.utc call.env.now).stored := by
  cases h <;> rfl

/-- Each confirmation of an order adds its event, each check-out leaves the events. -/
theorem events_foldl_effect (hvisit : ∀ i, (request i).OnVisit V) (order : List ι) :
    (order.foldl (fun x i => (request i).effect x) sheet).events =
      sheet.events ++ (order.filter fun i => (request i).confirms).map
        fun i => (request i).env.event_id := by
  induction order generalizing sheet with
  | nil => simp
  | cons i order ih =>
    rw [List.foldl_cons, ih, (hvisit i).events_effect]
    cases hconfirms : (request i).confirms <;> simp [hconfirms]

/-- Each confirmation of an order adds its proof, each check-out leaves the proofs. -/
theorem proofs_foldl_effect (hvisit : ∀ i, (request i).OnVisit V) (order : List ι) :
    (order.foldl (fun x i => (request i).effect x) sheet).proofs =
      sheet.proofs ++ (order.filter fun i => (request i).confirms).map
        fun i => (request i).env.proof_id := by
  induction order generalizing sheet with
  | nil => simp
  | cons i order ih =>
    rw [List.foldl_cons, ih, (hvisit i).proofs_effect]
    cases hconfirms : (request i).confirms <;> simp [hconfirms]

/-- The last check-out of an order gives its time of departure. -/
theorem departure_foldl_effect (hvisit : ∀ i, (request i).OnVisit V) (order : List ι) :
    (order.foldl (fun x i => (request i).effect x) sheet).checked_out_at =
      (((order.filter fun i => !(request i).confirms).getLast?).map
        fun i => (datetime.utc (request i).env.now).stored).or sheet.checked_out_at := by
  induction order generalizing sheet with
  | nil => rfl
  | cons i order ih =>
    rw [List.foldl_cons, ih, (hvisit i).departure_effect]
    cases hconfirms : (request i).confirms with
    | true => rw [List.filter_cons_of_neg (by simp [hconfirms]), if_pos rfl]
    | false =>
      rw [List.filter_cons_of_pos (by simp [hconfirms]), List.getLast?_cons, if_neg Bool.false_ne_true]
      generalize (order.filter fun i => !(request i).confirms).getLast? = last
      cases last <;> rfl

end sheets

section gates

variable {F : Type} [LinearOrder F] [NatCast F] {w : World F} {ι : Type} {request : ι → Call F} {V : UUID}

/-- A confirmed visit lets no other confirmation read it pending. -/
theorem confirmation_gate (hvisit : ∀ i, (request i).OnVisit V) :
    Gate (database w) request (fun writes => writes ≠ []) (fun i => (request i).confirms = true)
      (fun s => (s.sheet V).Validated) := by
  refine (effects_on_visit hvisit).gate ?_ (fun {i _} _ => (hvisit i).validated_effect)
    (fun {i _} _ => (hvisit i).validated_effect)
  intro i s answer writes hconfirms hprepare heffective
  change (request i).prepare w s = _ at hprepare
  have hi := hvisit i
  generalize request i = call at hi hprepare hconfirms
  cases hi with
  | check_out => cases hconfirms
  | confirm_host hid =>
    subst hid
    rcases prepare_confirm_host_cases hprepare with rfl | ⟨v, _, _, _, _, _, _, _, hadmits, _⟩
    · exact absurd rfl heffective
    · simp [Sheet.Validated, Store.sheet, hadmits.visit, hadmits.pending]

/-- A closed visit lets no other check-out read it open. -/
theorem check_out_gate (hvisit : ∀ i, (request i).OnVisit V) :
    Gate (database w) request (fun writes => writes ≠ []) (fun i => (request i).confirms = false)
      (fun s => (s.sheet V).Departed) := by
  refine (effects_on_visit hvisit).gate ?_ ?_ ?_
  · intro i s answer writes hcloses hprepare heffective
    change (request i).prepare w s = _ at hprepare
    have hi := hvisit i
    generalize request i = call at hi hprepare hcloses
    cases hi with
    | confirm_host => cases hcloses
    | check_out hid =>
      subst hid
      rcases prepare_check_out_cases hprepare with rfl | ⟨v, _, hadmits, _⟩
      · exact absurd rfl heffective
      · simp [Sheet.Departed, Store.sheet, hadmits.visit, hadmits.open_visit]
  · intro i sheet hcloses
    rw [Sheet.Departed, (hvisit i).departure_effect, hcloses]
    exact Option.some_ne_none _
  · intro i sheet hclosed
    rw [Sheet.Departed, (hvisit i).departure_effect]
    split
    · exact hclosed
    · exact Option.some_ne_none _

end gates

section runs

variable {F : Type} [LinearOrder F] [NatCast F] {w : World F} {ι : Type} [DecidableEq ι]
  {request : ι → Call F} {init s₀ : Store F} {calls : List (Call F)} {v : SiteVisitModel F}
  {labels : List (Event ι)} {c : Config (Store F) ι (Response F) (List (Write F)) Error}

omit [LinearOrder F] [NatCast F] in
/-- A consistent visit is validated, with its event and its two proofs, or lacks just one
of each. -/
theorem Store.Consistent.sheet_cases {s : Store F} (h : s.Consistent v) (hv : v ∈ s.site_visits.rows) :
    ((s.sheet v.id).Validated ∧ (s.events_of v.id).length = 1 ∧ (s.proofs_of v.id).length = 2) ∨
      ((s.events_of v.id).length = 0 ∧ (s.proofs_of v.id).length = 1) := by
  have hget : s.site_visits.get v.id = some v := Table.get_of_mem hv
  by_cases hpending : v.status = .PENDING_HOST
  · obtain ⟨⟨p, hproofs, -⟩, hevents⟩ := h.pending hpending
    exact Or.inr (by simp [hproofs, hevents])
  · obtain ⟨p, q, e, hproofs, -, hevents, -⟩ := h.confirmed hpending
    refine Or.inl ⟨?_, by simp [hevents], by simp [hproofs]⟩
    rw [Sheet.Validated, Store.sheet, hget]
    rcases h.status with hstatus | hstatus | hstatus
    · exact absurd hstatus hpending
    · exact Or.inl (congrArg some hstatus)
    · exact Or.inr (congrArg some hstatus)

section order

variable {order : List ι} (hvisit : ∀ i, (request i).OnVisit v.id)
  (hview : c.store.sheet v.id = order.foldl (fun x i => (request i).effect x) (s₀.sheet v.id))

include hvisit hview

omit [LinearOrder F] [NatCast F] [DecidableEq ι] in
theorem length_events_of_order : (c.store.events_of v.id).length =
    (s₀.events_of v.id).length + (order.filter fun i => (request i).confirms).length := by
  have hevents := congrArg (fun sheet => sheet.events.length) hview
  rw [events_foldl_effect hvisit] at hevents
  simpa only [Store.sheet, List.length_append, List.length_map] using hevents

omit [LinearOrder F] [NatCast F] [DecidableEq ι] in
theorem length_proofs_of_order : (c.store.proofs_of v.id).length =
    (s₀.proofs_of v.id).length + (order.filter fun i => (request i).confirms).length := by
  have hproofs := congrArg (fun sheet => sheet.proofs.length) hview
  rw [proofs_foldl_effect hvisit] at hproofs
  simpa only [Store.sheet, List.length_append, List.length_map] using hproofs

/-- The stored departure is the one the last check-out reported. -/
theorem departure_of_order (hrun : Execution (Step (database w) request) (Config.start s₀) labels c)
    (hmem : ∀ i, i ∈ order ↔ c.TookEffect (fun writes => writes ≠ []) i) {i : ι}
    (hlast : (order.filter fun i => !(request i).confirms).getLast? = some i) :
    ∃ x body writes, c.store.site_visits.get v.id = some x ∧
      x.checked_out_at = some (datetime.utc (request i).env.now).stored ∧
      c.phase i = .answered (.payload body) writes ∧
      body.get "checked_out_at" = some (.isoformat (datetime.utc (request i).env.now)) := by
  have hdeparture := congrArg Sheet.checked_out_at hview
  rw [departure_foldl_effect hvisit, hlast, Option.map_some, Option.some_or] at hdeparture
  obtain ⟨x, hx, hout⟩ := Option.bind_eq_some_iff.mp hdeparture
  obtain ⟨hi, hcloses⟩ := List.mem_filter.mp (List.mem_of_getLast? hlast)
  obtain ⟨answer, writes, hanswered, heffective⟩ := (hmem i).mp hi
  obtain ⟨s, hprepare⟩ := prepared_of_run hrun (Or.inr hanswered)
  change (request i).prepare w s = _ at hprepare
  have hon := hvisit i
  generalize request i = call at hon hprepare hcloses hout ⊢
  cases hon with
  | confirm_host => cases hcloses
  | check_out =>
    rcases prepare_check_out_cases hprepare with rfl | ⟨_, _, _, rfl, _⟩
    · exact absurd rfl heffective
    · exact ⟨x, _, writes, hx, hout, hanswered, rfl⟩

end order

section effective

variable {order : List ι} (hvisit : ∀ i, (request i).OnVisit v.id)
  (hrun : Execution (Step (database w) request) (Config.start s₀) labels c)
  (hmem : ∀ i, i ∈ order ↔ c.TookEffect (fun writes => writes ≠ []) i)

include hvisit hrun hmem

/-- Two requests of one kind that take effect have overlapped. -/
theorem overlap_of_order {i j : ι} (hi : i ∈ order) (hj : j ∈ order) (hne : i ≠ j)
    (hkind : (request i).confirms = (request j).confirms) : Overlap (database w) request s₀ labels c i j := by
  cases hconfirms : (request i).confirms with
  | true =>
    exact (confirmation_gate hvisit).overlap_of_holds hrun hconfirms (hkind ▸ hconfirms) hne
      ((hmem i).mp hi) (Or.inl ((hmem j).mp hj))
  | false =>
    exact (check_out_gate hvisit).overlap_of_holds hrun hconfirms (hkind ▸ hconfirms) hne
      ((hmem i).mp hi) (Or.inl ((hmem j).mp hj))

/-- A visit already validated takes no confirmation at all. -/
theorem length_confirmations_of_validated (hvalidated : (s₀.sheet v.id).Validated) :
    (order.filter fun i => (request i).confirms).length = 0 := by
  rw [List.length_eq_zero_iff, List.filter_eq_nil_iff]
  intro i hi hconfirms
  exact (((confirmation_gate hvisit).not_took_effect_of_closed hrun hvalidated).2 i hconfirms).2
    ((hmem i).mp hi)

/-- Of requests that never overlap at most one of a kind takes effect. -/
theorem length_filter_le_one_of_apart (hnodup : order.Nodup) {p : ι → Bool}
    (hkind : ∀ i j, p i = true → p j = true → (request i).confirms = (request j).confirms)
    (hapart : ∀ i j, i ≠ j → ¬ Overlap (database w) request s₀ labels c i j) : (order.filter p).length ≤ 1 := by
  refine length_le_one_of_nodup (hnodup.filter _) ?_
  intro i hi j hj
  obtain ⟨hi, hip⟩ := List.mem_filter.mp hi
  obtain ⟨hj, hjp⟩ := List.mem_filter.mp hj
  by_contra hne
  exact hapart i j hne (overlap_of_order hvisit hrun hmem hi hj hne (hkind i j hip hjp))

end effective

/-- Requests on one visit running side by side, on any store a run can reach. Those that
take effect do so in the order of their commits; any two confirmations among them have
overlapped, and any two check-outs; the visit ends with one event and two proofs, or one
more of each for every confirmation beyond the first; and its stored departure is the one
the last check-out reported. Requests that never overlap keep to one confirmation and one
check-out. -/
theorem overlapping_visit_requests (hempty : init.site_visits.rows = []) (hreached : Run w init calls s₀)
    (hv : v ∈ s₀.site_visits.rows) (hvisit : ∀ i, (request i).OnVisit v.id)
    (hrun : Execution (Step (database w) request) (Config.start s₀) labels c) :
    ∃ order : List ι, (order.map Event.commit).Sublist labels ∧ order.Nodup ∧
      (∀ i, i ∈ order ↔ c.TookEffect (fun writes => writes ≠ []) i) ∧
      (∀ i ∈ order, ∀ j ∈ order, i ≠ j → (request i).confirms = (request j).confirms →
        Overlap (database w) request s₀ labels c i j) ∧
      (c.store.events_of v.id).length ≤ max 1 (order.filter fun i => (request i).confirms).length ∧
      (c.store.proofs_of v.id).length ≤
        1 + max 1 (order.filter fun i => (request i).confirms).length ∧
      (∀ i, (order.filter fun i => !(request i).confirms).getLast? = some i →
        ∃ x body writes, c.store.site_visits.get v.id = some x ∧
          x.checked_out_at = some (datetime.utc (request i).env.now).stored ∧
          c.phase i = .answered (.payload body) writes ∧
          body.get "checked_out_at" = some (.isoformat (datetime.utc (request i).env.now))) ∧
      ((∀ i j, i ≠ j → ¬ Overlap (database w) request s₀ labels c i j) →
        (order.filter fun i => (request i).confirms).length ≤ 1 ∧
        (order.filter fun i => !(request i).confirms).length ≤ 1) := by
  obtain ⟨order, hcommits, hnodup, hmem, hview⟩ := (effects_on_visit hvisit).exists_order hrun
  obtain ⟨d, rfl, hd⟩ := filed_of_run hreached hempty v hv
  have hcases := hd.consistent.sheet_cases hv
  have hevents := length_events_of_order hvisit hview
  have hproofs := length_proofs_of_order hvisit hview
  refine ⟨order, hcommits, hnodup, hmem, fun i hi j hj => overlap_of_order hvisit hrun hmem hi hj, ?_, ?_,
    fun i hlast => departure_of_order hvisit hview hrun hmem hlast, fun hapart => ⟨?_, ?_⟩⟩
  · rcases hcases with ⟨hvalidated, hone, _⟩ | ⟨hzero, _⟩
    · have hnone := length_confirmations_of_validated hvisit hrun hmem hvalidated
      omega
    · omega
  · rcases hcases with ⟨hvalidated, _, htwo⟩ | ⟨_, hone⟩
    · have hnone := length_confirmations_of_validated hvisit hrun hmem hvalidated
      omega
    · omega
  · exact length_filter_le_one_of_apart hvisit hrun hmem hnodup (fun i j hi hj => hi.trans hj.symm) hapart
  · exact length_filter_le_one_of_apart hvisit hrun hmem hnodup
      (fun i j hi hj => Bool.not_inj (hi.trans hj.symm)) hapart

end runs

/-- A confirmation read while the visit was pending commits as long as the visit is there
and its key is not recorded. -/
theorem ConfirmHostPresence.Admits.exists_commit {F : Type} [LinearOrder F] [NatCast F] {w : World F}
    {env : Env} {cmd : ConfirmHostCommand F} {s t : Store F} {v x : SiteVisitModel F} {m : MissionModel}
    {est : EstablishmentModel F} {mode : HostValidationMode} {host : Option (F × F)} {latitude longitude : F}
    (h : ConfirmHostPresence.Admits w env cmd s v m est mode host [] latitude longitude)
    (hunread : s.recorded cmd.scope cmd.client_request_id = none) (hfresh : env.Fresh t)
    (hx : t.site_visits.get cmd.site_visit_id = some x)
    (hrecord : t.recorded cmd.scope cmd.client_request_id = none) :
    ∃ answer writes u, Call.prepare w ⟨.confirm_host cmd, env⟩ s = .ok (answer, writes) ∧ writes ≠ [] ∧
      t.commit writes = some u := by
  have hv := Table.mem_of_get h.visit
  have hid : v.id = cmd.site_visit_id := Table.key_of_get h.visit
  obtain ⟨visits, hvisits, -⟩ := Table.update_of_keeps (SiteVisitModel.keeps_flush v
    (apply_site_visit_to_row (ConfirmHostPresence.visit v host) v)) (hid ▸ hx)
  obtain ⟨proofs, hproofs⟩ := hfresh.insert_proof
    (new_presence_proof_row (ConfirmHostPresence.proof env cmd v latitude longitude)).stored rfl
  obtain ⟨events, hevents⟩ := hfresh.insert_event
    (new_copresence_event_row (ConfirmHostPresence.event env v) mode).stored rfl
  obtain ⟨records, hrecords⟩ := hfresh.insert_record (ConfirmHostPresence.payload v) hrecord
  refine ⟨_, _, { t with
      site_visits := visits
      presence_proofs := proofs
      copresence_events := events
      idempotency_records := records }, map_payload_eq_ok_iff.mpr ⟨_, idempotent_eq_ok_iff.mpr
    (Or.inr ⟨hunread, _, ConfirmHostPresence.body_eq_ok_iff.mpr ⟨_, _, _, _, _, _, _, _, h, rfl, rfl⟩,
      rfl⟩), rfl⟩, by simp, ?_⟩
  rw [ConfirmHostPresence.save_eq hv]
  refine Store.commit_cons_eq_some_iff.mpr ⟨_, Option.map_eq_some_iff.mpr ⟨visits, hvisits, rfl⟩, ?_⟩
  exact Store.commit_add_presence_proof.mpr ⟨_, hproofs, Store.commit_add_copresence_event.mpr
    ⟨_, hevents, Store.commit_add_idempotency_record.mpr ⟨_, hrecords, rfl⟩⟩⟩

namespace pilot

/-- Two confirmations of the visit, under two keys. -/
noncomputable def confirmations (second : Bool) : Call ℝ :=
  ⟨.confirm_host (confirm "host" (if second then "confirm-2" else "confirm-1")),
    surroundings (if second then "3" else "2") 20⟩

theorem on_visit_confirmations (second : Bool) : (confirmations second).OnVisit visit.id := .confirm_host rfl

theorem exec_confirmations : exec world (confirmations false) arrived =
    (.ok (.payload confirmation_payload), confirmed "host") :=
  (Outcome.confirm_host (host_confirmed "host")).exec (show (surroundings "2" 20).Fresh arrived by decide)

/-- The second confirmation, read from the pending visit, commits on the confirmed one. -/
theorem commit_confirmations : ∃ answer writes u,
    (confirmations true).prepare world arrived = .ok (answer, writes) ∧ writes ≠ [] ∧
      (confirmed "host").commit writes = some u :=
  (admits_confirm "host" "confirm-2" "3").exists_commit (x := confirmed_visit) rfl
    (show (surroundings "3" 20).Fresh (confirmed "host") by decide) rfl rfl

/-- Both read the visit pending, then both commit. -/
theorem execution_confirmations : ∃ c,
    Execution (Step (database world) confirmations) (Config.start arrived)
      [.read false, .read true, .commit false, .commit true] c ∧
    c.TookEffect (fun writes => writes ≠ []) false ∧ c.TookEffect (fun writes => writes ≠ []) true := by
  obtain ⟨writes, hprepare, hcommit⟩ := exec_eq_ok_iff_commit.mp exec_confirmations
  obtain ⟨answer', writes', u, hprepare', hwrites', hcommit'⟩ := commit_confirmations
  have hwrites : writes ≠ [] := by
    rintro rfl
    cases congrArg (fun s => s.copresence_events.rows.length) (Option.some.inj hcommit)
  exact ⟨_, (((Execution.refl.snoc (Step.read_ok rfl hprepare)).snoc
    (Step.read_ok rfl hprepare')).snoc (Step.commit rfl hcommit)).snoc (Step.commit rfl hcommit'),
    ⟨_, _, rfl, hwrites⟩, _, _, rfl, hwrites'⟩

end pilot

/-- Under two keys, two overlapping confirmations of the pilot visit both take effect, and
leave it two events. -/
theorem two_confirmations_take_effect : ∃ c,
    Execution (Step (database pilot.world) pilot.confirmations) (Config.start pilot.arrived)
      [.read false, .read true, .commit false, .commit true] c ∧
    (∀ i, c.TookEffect (fun writes => writes ≠ []) i) ∧
    2 ≤ (c.store.events_of pilot.visit.id).length := by
  obtain ⟨c, hrun, hfirst, hsecond⟩ := pilot.execution_confirmations
  have hboth : ∀ i, c.TookEffect (fun writes => writes ≠ []) i := Bool.forall_bool.mpr ⟨hfirst, hsecond⟩
  refine ⟨c, hrun, hboth, ?_⟩
  obtain ⟨order, -, -, hmem, hview⟩ := (effects_on_visit pilot.on_visit_confirmations).exists_order hrun
  have hconfirms : (order.filter fun i => (pilot.confirmations i).confirms) = order :=
    List.filter_eq_self.mpr fun i _ => rfl
  rw [length_events_of_order (v := pilot.visit) pilot.on_visit_confirmations hview, hconfirms]
  have hsub : [false, true] ⊆ order := fun i _ => (hmem i).mpr (hboth i)
  exact Nat.le_add_left_of_le (List.subperm_of_subset (by decide) hsub).length_le

/-- They overlapped: both had read the visit before either confirmed it. -/
theorem pilot_confirmations_overlap : ∃ c,
    Overlap (database pilot.world) pilot.confirmations pilot.arrived
      [.read false, .read true, .commit false, .commit true] c false true := by
  obtain ⟨c, hrun, hfirst, hsecond⟩ := pilot.execution_confirmations
  obtain ⟨order, -, -, hmem, hoverlap, -⟩ := overlapping_visit_requests rfl
    (Execution.single pilot.served_arrive) (List.mem_singleton.mpr rfl) pilot.on_visit_confirmations hrun
  exact ⟨c, hoverlap false ((hmem false).mpr hfirst) true ((hmem true).mpr hsecond) Bool.false_ne_true rfl⟩

end sigis
