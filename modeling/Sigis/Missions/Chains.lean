import Sigis.Lib.Chains
import Sigis.Missions.Cancellation
import Sigis.Missions.Windows

open chains guarded relational transactional transition

namespace sigis

/-- The mission `b` was created to replace the mission `a`. -/
def Succeeds (missions : Table MissionModel) (a b : UUID) : Prop :=
  ∃ m, missions.get b = some m ∧ m.previous_mission_id = some a

/-- What a replacing mission takes over. -/
structure MissionModel.SameTerms (m m' : MissionModel) : Prop where
  establishment_id : m'.establishment_id = m.establishment_id
  window_start : m'.window_start = m.window_start
  window_end : m'.window_end = m.window_end
  sms_code : m'.sms_code = m.sms_code
  designated_host_user_id : m'.designated_host_user_id = m.designated_host_user_id
  objective : m'.objective = m.objective
  plan_reference : m'.plan_reference = m.plan_reference

theorem MissionModel.SameTerms.refl (m : MissionModel) : m.SameTerms m := ⟨rfl, rfl, rfl, rfl, rfl, rfl, rfl⟩

theorem MissionModel.SameTerms.symm {m m' : MissionModel} (h : m.SameTerms m') : m'.SameTerms m :=
  ⟨h.establishment_id.symm, h.window_start.symm, h.window_end.symm, h.sms_code.symm,
    h.designated_host_user_id.symm, h.objective.symm, h.plan_reference.symm⟩

theorem MissionModel.SameTerms.trans {m m' m'' : MissionModel} (h : m.SameTerms m') (h' : m'.SameTerms m'') :
    m.SameTerms m'' where
  establishment_id := h'.establishment_id.trans h.establishment_id
  window_start := h'.window_start.trans h.window_start
  window_end := h'.window_end.trans h.window_end
  sms_code := h'.sms_code.trans h.sms_code
  designated_host_user_id := h'.designated_host_user_id.trans h.designated_host_user_id
  objective := h'.objective.trans h.objective
  plan_reference := h'.plan_reference.trans h.plan_reference

/-- What the requests of the mission workflow keep: simple chains of missions on the same
terms, all cancelled but the last one, each with a host token of its own. -/
structure Chained (missions : Table MissionModel) : Prop where
  simple : SimpleChains (Succeeds missions)
  linked : ∀ {a b m'}, missions.get b = some m' → m'.previous_mission_id = some a →
    ∃ m, missions.get a = some m ∧ m.status = .CANCELLED ∧ m.SameTerms m'
  tokens : ∀ {m m'}, m ∈ missions.rows → m' ∈ missions.rows → m.host_token = m'.host_token → m = m'

namespace Chained

variable {missions missions' : Table MissionModel} {old new row m m' : MissionModel} {a b : UUID}

theorem of_no_missions (h : missions.rows = []) : Chained missions where
  simple := by
    refine SimpleChains.empty ?_
    rintro a b ⟨m, hm, -⟩
    have hmem := Table.mem_of_get hm
    rw [h] at hmem
    cases hmem
  linked := by
    intro a b m' hm'
    have hmem := Table.mem_of_get hm'
    rw [h] at hmem
    cases hmem
  tokens := by
    intro m m' hmem
    rw [h] at hmem
    cases hmem

/-- A mission that is not cancelled is the last one of its chain. -/
theorem last (h : Chained missions) (hm : missions.get a = some m) (hstatus : m.status ≠ .CANCELLED) (b : UUID) :
    ¬ Succeeds missions a b := by
  rintro ⟨m', hm', hprevious⟩
  obtain ⟨found, hfound, hcancelled, -⟩ := h.linked hm' hprevious
  rw [hm] at hfound
  cases hfound
  exact hstatus hcancelled

/-- The missions of a chain are all on the same terms. -/
theorem same_terms (h : Chained missions) (hab : Relation.ReflTransGen (Succeeds missions) a b)
    (hm : missions.get a = some m) (hm' : missions.get b = some m') : m.SameTerms m' := by
  induction hab generalizing m' with
  | refl =>
    rw [hm] at hm'
    cases hm'
    exact .refl m
  | tail _ hlink ih =>
    obtain ⟨found, hfound, hprevious⟩ := hlink
    rw [hm'] at hfound
    cases hfound
    obtain ⟨p, hp, -, hterms⟩ := h.linked hm' hprevious
    exact (ih hp).trans hterms

/-- A mission rewritten without its link leaves every link. -/
theorem succeeds_of_replaces (hreplaces : Table.Replaces missions old new missions')
    (hprevious : new.previous_mission_id = old.previous_mission_id) : Succeeds missions' = Succeeds missions := by
  funext a b
  unfold Succeeds
  rw [hreplaces.get]
  by_cases hb : Row.key old = b
  · rw [if_pos hb, ← hb, hreplaces.get_old]
    simp [hprevious]
  · rw [if_neg hb]

/-- A mission on the same terms, with the same link and the same token, may take the place of
another one, if it is cancelled where that one has been replaced. -/
theorem of_replaces (h : Chained missions) (hreplaces : Table.Replaces missions old new missions')
    (hprevious : new.previous_mission_id = old.previous_mission_id) (htoken : new.host_token = old.host_token)
    (hterms : old.SameTerms new) (hstatus : old.status = .CANCELLED → new.status = .CANCELLED) : Chained missions' where
  simple := by
    rw [succeeds_of_replaces hreplaces hprevious]
    exact h.simple
  linked := by
    -- the row found under an identifier is the old one, or the new one in its place
    have hbefore {k : UUID} {m' : MissionModel} (hm' : missions'.get k = some m') :
        ∃ m, missions.get k = some m ∧ m.SameTerms m' ∧ m'.previous_mission_id = m.previous_mission_id := by
      rw [hreplaces.get] at hm'
      split at hm'
      · next hk =>
        cases hm'
        exact ⟨old, hk ▸ hreplaces.get_old, hterms, hprevious⟩
      · exact ⟨m', hm', .refl m', rfl⟩
    intro a b m' hm' hlink
    obtain ⟨m, hm, hsame, hkept⟩ := hbefore hm'
    obtain ⟨p, hp, hcancelled, hshared⟩ := h.linked hm (hkept.symm.trans hlink)
    rw [hreplaces.get]
    by_cases ha : Row.key old = a
    · have hold : p = old := Option.some.inj (hp.symm.trans (ha ▸ hreplaces.get_old))
      subst hold
      exact ⟨new, if_pos ha, hstatus hcancelled, (hterms.symm.trans hshared).trans hsame⟩
    · exact ⟨p, (if_neg ha).trans hp, hcancelled, hshared.trans hsame⟩
  tokens := by
    have hkey : ∀ {x}, x ∈ missions'.rows → ∃ y ∈ missions.rows, y.host_token = x.host_token ∧ y.id = x.id := by
      intro x hx
      rcases hreplaces.mem_iff.mp hx with ⟨hx, -⟩ | rfl
      · exact ⟨x, hx, rfl, rfl⟩
      · exact ⟨old, hreplaces.stored, htoken.symm, hreplaces.key.symm⟩
    intro m m' hm hm' htokens
    obtain ⟨y, hy, hytoken, hyid⟩ := hkey hm
    obtain ⟨y', hy', hytoken', hyid'⟩ := hkey hm'
    have hsame : y = y' := h.tokens hy hy' (hytoken.trans (htokens.trans hytoken'.symm))
    exact missions'.eq_of_key hm hm' (hyid.symm.trans ((congrArg MissionModel.id hsame).trans hyid'))

/-- The tokens stay different when the new mission has a new one. -/
theorem tokens_of_insert (h : Chained missions) (hinsert : missions.insert row = some missions')
    (hfresh : ∀ m ∈ missions.rows, m.host_token ≠ row.host_token) {m m' : MissionModel} (hm : m ∈ missions'.rows)
    (hm' : m' ∈ missions'.rows) (htokens : m.host_token = m'.host_token) : m = m' := by
  rw [Table.rows_insert hinsert, List.mem_append, List.mem_singleton] at hm hm'
  rcases hm with hm | rfl
  · rcases hm' with hm' | rfl
    · exact h.tokens hm hm' htokens
    · exact absurd htokens (hfresh m hm)
  · rcases hm' with hm' | rfl
    · exact absurd htokens.symm (hfresh m' hm')
    · rfl

/-- A new mission that replaces none starts a chain. -/
theorem of_insert_first (h : Chained missions) (hinsert : missions.insert row = some missions')
    (hfirst : row.previous_mission_id = none) (hfresh : ∀ m ∈ missions.rows, m.host_token ≠ row.host_token) :
    Chained missions' := by
  have hget {k : UUID} {p : UUID} {m' : MissionModel} (hm' : missions'.get k = some m')
      (hlink : m'.previous_mission_id = some p) : missions.get k = some m' := by
    rw [Table.get_insert hinsert] at hm'
    split at hm'
    · cases hm'
      rw [hfirst] at hlink
      cases hlink
    · exact hm'
  have hsucceeds : Succeeds missions' = Succeeds missions := by
    funext a b
    refine propext ⟨?_, ?_⟩
    · rintro ⟨m', hm', hlink⟩
      exact ⟨m', hget hm' hlink, hlink⟩
    · rintro ⟨m', hm', hlink⟩
      exact ⟨m', Table.get_insert_of_some hinsert hm', hlink⟩
  refine ⟨hsucceeds ▸ h.simple, ?_, h.tokens_of_insert hinsert hfresh⟩
  intro a b m' hm' hlink
  obtain ⟨p, hp, hcancelled, hterms⟩ := h.linked (hget hm' hlink) hlink
  exact ⟨p, Table.get_insert_of_some hinsert hp, hcancelled, hterms⟩

/-- A new mission on the terms of a cancelled one that nobody has replaced follows it. -/
theorem of_insert_next (h : Chained missions) (hinsert : missions.insert row = some missions')
    (hprevious : row.previous_mission_id = some m.id) (hm : missions.get m.id = some m)
    (hcancelled : m.status = .CANCELLED)
    (hlast : ∀ b, ¬ Succeeds missions m.id b) (hterms : m.SameTerms row)
    (hfresh : ∀ m ∈ missions.rows, m.host_token ≠ row.host_token) : Chained missions' := by
  have hnew : missions.get row.id = none := by
    rw [Table.get_eq_none_iff]
    intro x hx hkey
    exact (Table.insert_eq_some_iff.mp hinsert).1 x hx (clash_of_key hkey)
  have hsucceeds : Succeeds missions' = SimpleChains.Extended (Succeeds missions) m.id row.id := by
    funext a b
    unfold Succeeds SimpleChains.Extended
    rw [Table.get_insert hinsert]
    refine propext ⟨?_, ?_⟩
    · rintro ⟨m', hm', hlink⟩
      split at hm'
      · next hb =>
        cases hm'
        exact Or.inr ⟨Option.some.inj (hlink.symm.trans hprevious), hb.symm⟩
      · exact Or.inl ⟨m', hm', hlink⟩
    · rintro (⟨m', hm', hlink⟩ | ⟨rfl, rfl⟩)
      · refine ⟨m', ?_, hlink⟩
        rw [if_neg, hm']
        rintro rfl
        cases hnew.symm.trans hm'
      · exact ⟨row, if_pos rfl, hprevious⟩
  refine ⟨?_, ?_, h.tokens_of_insert hinsert hfresh⟩
  · rw [hsucceeds]
    refine h.simple.extend hlast ?_ ?_ ?_
    · rintro a ⟨m', hm', -⟩
      cases hnew.symm.trans hm'
    · rintro b ⟨m', hm', hlink⟩
      obtain ⟨p, hp, -⟩ := h.linked hm' hlink
      cases hnew.symm.trans hp
    · intro heq
      rw [← heq, hnew] at hm
      cases hm
  · intro a b m' hm' hlink
    rw [Table.get_insert hinsert] at hm'
    split at hm'
    · cases hm'
      cases Option.some.inj (hprevious.symm.trans hlink)
      exact ⟨m, Table.get_insert_of_some hinsert hm, hcancelled, hterms⟩
    · obtain ⟨p, hp, hstatus, hshared⟩ := h.linked hm' hlink
      exact ⟨p, Table.get_insert_of_some hinsert hp, hstatus, hshared⟩

end Chained

/-- The requests that create missions and decide about them. -/
def Request.ManagesMissions {F : Type} : Request F → Prop
  | .create_mission _ => True
  | .approve_mission _ => True
  | .cancel_mission _ => True
  | .reassign_inspector _ => True
  | _ => False

/-- A mission that leaves the terms of a loaded row as they were. -/
structure Mission.KeepsTerms (mission : Mission) (m : MissionModel) : Prop where
  establishment_id : mission.establishment_id = m.establishment_id
  window_start : mission.window_start = m.window_start
  window_end : mission.window_end = m.window_end
  sms_code : mission.sms_code = m.sms_code
  designated_host_user_id : mission.designated_host_user_id = m.designated_host_user_id
  objective : mission.objective = m.objective
  plan_reference : mission.plan_reference = m.plan_reference

theorem Mission.KeepsTerms.same_terms {mission : Mission} {m : MissionModel} (h : mission.KeepsTerms m)
    (hnaive : m.Naive) :
    m.SameTerms (m.assigned mission) where
  establishment_id := column_loaded.trans h.establishment_id
  window_start := (hnaive.same_window h.window_start h.window_end).window_start
  window_end := (hnaive.same_window h.window_start h.window_end).window_end
  sms_code := column_loaded.trans h.sms_code
  designated_host_user_id := column_loaded.trans h.designated_host_user_id
  objective := column_loaded.trans h.objective
  plan_reference := column_loaded.trans h.plan_reference

variable {F : Type} [LinearOrder F] [NatCast F] {w : World F} {call : Call F} {init s t : Store F}
  {calls : List (Call F)} {r : Response F}

/-- A request of the workflow keeps the chains. -/
theorem Outcome.chained (h : Outcome w call s r t) (hmanages : call.request.ManagesMissions) (hfresh : call.env.Fresh s)
    (hs : Chained s.missions) (hnaive : s.NaiveWindows) : Chained t.missions := by
  have htoken : ∀ m ∈ s.missions.rows, m.host_token ≠ call.env.host_token :=
    fun m hm => Store.host_token_ne_of_not_mem (hfresh _ call.env.host_token_mem) hm
  cases h with
  | create_mission _ _ hrows => exact hs.of_insert_first hrows rfl htoken
  | approve_mission hm hdraft hrows =>
    refine hs.of_replaces hrows ?_ ?_ ?_ ?_
    · exact (Mission.Edits.evolves ⟨rfl, rfl, rfl, rfl, rfl⟩).previous_mission_id
    · exact (Mission.Edits.evolves ⟨rfl, rfl, rfl, rfl, rfl⟩).host_token
    · exact Mission.KeepsTerms.same_terms ⟨rfl, rfl, rfl, rfl, rfl, rfl, rfl⟩ (hnaive _ hrows.stored)
    · intro hcancelled
      rw [hdraft] at hcancelled
      cases hcancelled
  | cancel_mission hm _ hmission hrows =>
    subst hmission
    refine hs.of_replaces hrows ?_ ?_ ?_ ?_
    · exact (Mission.Edits.evolves ⟨rfl, rfl, rfl, rfl, rfl⟩).previous_mission_id
    · exact (Mission.Edits.evolves ⟨rfl, rfl, rfl, rfl, rfl⟩).host_token
    · exact Mission.KeepsTerms.same_terms ⟨rfl, rfl, rfl, rfl, rfl, rfl, rfl⟩ (hnaive _ hrows.stored)
    · exact fun _ => MissionModel.status_assigned _ _
  | @reassign_inspector cmd env _ m user cancelled missions hm hopen _ hrows hrows' =>
    have hevolves : m.Evolves (m.assigned (ReassignInspector.replaced env cmd m)) :=
      Mission.Edits.evolves ⟨rfl, rfl, rfl, rfl, rfl⟩
    have hterms : m.SameTerms (m.assigned (ReassignInspector.replaced env cmd m)) :=
      Mission.KeepsTerms.same_terms ⟨rfl, rfl, rfl, rfl, rfl, rfl, rfl⟩ (hnaive _ hrows.stored)
    have hcancelled : (m.assigned (ReassignInspector.replaced env cmd m)).status = .CANCELLED :=
      MissionModel.status_assigned _ _
    have hchained := hs.of_replaces hrows hevolves.previous_mission_id hevolves.host_token hterms fun _ => hcancelled
    refine hchained.of_insert_next (m := m.assigned (ReassignInspector.replaced env cmd m)) hrows' rfl hrows.get_self
      hcancelled ?_ ?_ ?_
    · -- the mission was still open, so nobody had replaced it
      rw [Chained.succeeds_of_replaces hrows hevolves.previous_mission_id]
      exact hs.last hrows.get_old fun heq => hopen (Or.inr heq)
    · have hclone : m.SameTerms
          (new_mission_row (ReassignInspector.clone env cmd (mission_to_domain m)) env.host_token).stored :=
        ⟨rfl, (hnaive _ hrows.stored).window_start, (hnaive _ hrows.stored).window_end, rfl, rfl, rfl, rfl⟩
      exact hterms.symm.trans hclone
    · intro x hx
      rcases hrows.mem_iff.mp hx with ⟨hx, -⟩ | rfl
      · exact htoken x hx
      · exact ne_of_eq_of_ne hevolves.host_token (htoken m hrows.stored)
  | replayed => exact hs
  | _ => exact hmanages.elim

theorem chained_of_run (hempty : init.missions.rows = []) (hmanages : ∀ call ∈ calls, call.request.ManagesMissions)
    (hrun : Run w init calls s) : Chained s.missions := by
  have hinvariant : Chained s.missions ∧ s.NaiveWindows := by
    refine hrun.invariant_of_takes (fun t => Chained t.missions ∧ t.NaiveWindows) ⟨.of_no_missions hempty, ?_⟩ ?_
    · intro m hm
      rw [hempty] at hm
      cases hm
    · rintro x call y htakes ⟨hx, hnaive⟩
      refine ⟨?_, hnaive.of_served htakes.taken⟩
      rcases htakes.taken.outcome with rfl | ⟨r, houtcome⟩
      · exact hx
      · exact houtcome.chained (hmanages call htakes.mem) htakes.taken.1 hx hnaive
  exact hinvariant.1

/-- Creations, approvals, cancellations and reassignments leave simple chains: a mission is
replaced at most once, and is cancelled then; the missions of a chain are on the same terms, with
different host tokens, and the one that is not cancelled is the last. -/
theorem reassignment_keeps_simple_chains (hempty : init.missions.rows = [])
    (hmanages : ∀ call ∈ calls, call.request.ManagesMissions) (hrun : Run w init calls s) :
    SimpleChains (Succeeds s.missions) ∧
    (∀ a b, Succeeds s.missions a b → ∃ m, s.missions.get a = some m ∧ m.status = .CANCELLED) ∧
    ∀ a b m m', s.missions.get a = some m → s.missions.get b = some m' → Relation.EqvGen (Succeeds s.missions) a b →
      m.SameTerms m' ∧ (a ≠ b → m.host_token ≠ m'.host_token) ∧
      (m.status ≠ .CANCELLED → Relation.ReflTransGen (Succeeds s.missions) b a ∧ (m'.status ≠ .CANCELLED → a = b)) := by
  have h := chained_of_run hempty hmanages hrun
  refine ⟨h.simple, ?_, ?_⟩
  · rintro a b ⟨m', hm', hlink⟩
    obtain ⟨m, hm, hcancelled, -⟩ := h.linked hm' hlink
    exact ⟨m, hm, hcancelled⟩
  · intro a b m m' hm hm' hchain
    refine ⟨?_, ?_, ?_⟩
    · rcases h.simple.comparable hchain with hlead | hlead
      · exact h.same_terms hlead hm hm'
      · exact (h.same_terms hlead hm' hm).symm
    · intro hne htokens
      have hsame := h.tokens (Table.mem_of_get hm) (Table.mem_of_get hm') htokens
      exact hne ((Table.key_of_get hm).symm.trans ((congrArg Row.key hsame).trans (Table.key_of_get hm')))
    · intro hopen
      refine ⟨h.simple.leads_to_end hchain.symm (h.last hm hopen), fun hopen' => ?_⟩
      exact h.simple.end_unique hchain (h.last hm hopen) (h.last hm' hopen')

namespace pilot

def reassign : ReassignInspectorCommand where
  mission_id := ⟨"mission"⟩
  new_inspector_id := ⟨"host"⟩
  actor_user_id := ⟨"supervisor"⟩

def replaced_mission : MissionModel :=
  { mission with
    status := .CANCELLED
    cancellation_reason := some "Réaffectation vers une nouvelle mission."
    cancelled_at := some ⟨5, none⟩
    cancelled_by_user_id := some ⟨"supervisor"⟩ }

def next_mission : MissionModel :=
  { mission with
    id := ⟨"mission-1"⟩
    inspector_id := ⟨"host"⟩
    host_token := ⟨"host-token-1"⟩
    previous_mission_id := some ⟨"mission"⟩ }

noncomputable def replaced : Store ℝ :=
  { opened with missions := ⟨[replaced_mission], List.pairwise_singleton _ _⟩ }

noncomputable def reassigned : Store ℝ :=
  { opened with missions := ⟨[replaced_mission, next_mission], by decide⟩ }

theorem served_reassign :
    Served world planned ⟨.reassign_inspector reassign, surroundings "1" 5⟩ reassigned := by
  have hreplaces : Table.Replaces planned.missions mission
      (mission.assigned (ReassignInspector.replaced (surroundings "1" 5) reassign mission)) replaced.missions := by
    refine ⟨List.mem_singleton.mpr rfl, rfl, ?_⟩
    decide
  have hinsert : replaced.missions.insert (new_mission_row (ReassignInspector.clone (surroundings "1" 5) reassign
      (mission_to_domain mission)) (surroundings "1" 5).host_token).stored = some reassigned.missions := by
    refine Table.insert_eq_some_iff.mpr ⟨?_, rfl⟩
    decide
  have houtcome : Outcome world ⟨.reassign_inspector reassign, surroundings "1" 5⟩ planned _ reassigned :=
    .reassign_inspector rfl (by decide) (show UserAuthRepositoryImpl.get_by_id planned ⟨"host"⟩ = .ok _ from rfl)
      hreplaces hinsert
  exact houtcome.served (show (surroundings "1" 5).Fresh planned by decide)

theorem run_reassigned : Run world opened
    [⟨.create_mission found, founding⟩, ⟨.reassign_inspector reassign, surroundings "1" 5⟩] reassigned :=
  (Execution.single served_found).snoc served_reassign

end pilot

/-- The pilot mission and the one that replaced it: the same terms, other tokens, and only the
second one is open. -/
theorem pilot_chain :
    pilot.replaced_mission.SameTerms pilot.next_mission ∧
    pilot.replaced_mission.host_token ≠ pilot.next_mission.host_token ∧
    Relation.ReflTransGen (Succeeds pilot.reassigned.missions) ⟨"mission"⟩ ⟨"mission-1"⟩ := by
  have hmanages : ∀ call ∈ [(⟨.create_mission pilot.found, pilot.founding⟩ : Call ℝ),
      ⟨.reassign_inspector pilot.reassign, pilot.surroundings "1" 5⟩], call.request.ManagesMissions := by
    simp [Request.ManagesMissions]
  have hlink : Succeeds pilot.reassigned.missions ⟨"mission"⟩ ⟨"mission-1"⟩ := ⟨pilot.next_mission, rfl, rfl⟩
  obtain ⟨-, -, hchain⟩ := reassignment_keeps_simple_chains rfl hmanages pilot.run_reassigned
  obtain ⟨hterms, htokens, -⟩ := hchain ⟨"mission"⟩ ⟨"mission-1"⟩ _ _ rfl rfl (.rel _ _ hlink)
  obtain ⟨-, -, hopen⟩ := hchain ⟨"mission-1"⟩ ⟨"mission"⟩ _ _ rfl rfl (.symm _ _ (.rel _ _ hlink))
  exact ⟨hterms, htokens (by decide), (hopen (by decide)).1⟩

end sigis
