import Sigis.Establishments.Geometry
import Sigis.Lib.Counters

open guarded relational transactional transition

namespace sigis

variable {F : Type}

def Write.SparesEstablishments : Write F → Prop
  | .add_establishment _ => False
  | .update_establishment _ _ => False
  | _ => True

def Request.SparesEstablishments : Request F → Prop
  | .create_establishment _ => False
  | .update_establishment _ _ => False
  | _ => True

theorem Store.establishments_of_commit [DecidableEq F] {s t : Store F} {writes : List (Write F)}
    (h : ∀ write ∈ writes, write.SparesEstablishments) (hcommit : s.commit writes = some t) :
    t.establishments = s.establishments := by
  induction writes generalizing s with
  | nil =>
    cases hcommit
    rfl
  | cons write writes ih =>
    obtain ⟨u, happly, hrest⟩ := Store.commit_cons_eq_some_iff.mp hcommit
    obtain ⟨hfirst, hothers⟩ := List.forall_mem_cons.mp h
    rw [ih hothers hrest]
    cases write with
    | add_establishment | update_establishment => exact hfirst.elim
    | delete_idempotency_record id =>
      cases happly
      rfl
    | _ =>
      obtain ⟨_, -, rfl⟩ := Option.map_eq_some_iff.mp happly
      rfl

theorem SiteVisitRepositoryImpl.save_spares (s : Store F) (visit : SiteVisit F) :
    (SiteVisitRepositoryImpl.save s visit).SparesEstablishments := by
  unfold SiteVisitRepositoryImpl.save
  split <;> trivial

theorem MissionRepositoryImpl.save_spares {s : Store F} {mission : Mission} {write : Write F}
    (h : MissionRepositoryImpl.save s mission = .ok write) : write.SparesEstablishments := by
  unfold MissionRepositoryImpl.save at h
  split at h
  · obtain ⟨_, -, h⟩ := bind_eq_ok_iff.mp h
    cases h
    trivial
  · cases h
    trivial

variable [LinearOrder F] [NatCast F] {w : World F} {call : Call F} {s t : Store F} {r : Response F}
  {writes : List (Write F)}

omit [LinearOrder F] [NatCast F] in
/-- The bodies of the visit requests leave the establishments, and so do their frames. -/
theorem spares_of_idempotent {env : Env} {scope client_request_id : String}
    {body : Except Error (Dict × List (Write F))} {payload : Dict}
    (h : idempotent s env scope client_request_id body = .ok (payload, writes))
    (hbody : ∀ answer effects, body = .ok (answer, effects) → ∀ write ∈ effects, write.SparesEstablishments) :
    ∀ write ∈ writes, write.SparesEstablishments := by
  rcases idempotent_eq_ok_iff.mp h with ⟨_, -, -, rfl⟩ | ⟨-, effects, heffects, rfl⟩
  · exact List.forall_mem_nil _
  · exact List.forall_mem_append.mpr ⟨hbody _ _ heffects, List.forall_mem_singleton.mpr trivial⟩

theorem Call.spares_establishments (hprepare : call.prepare w s = .ok (r, writes))
    (h : call.request.SparesEstablishments) : ∀ write ∈ writes, write.SparesEstablishments := by
  obtain ⟨request, env⟩ := call
  cases request with
  | create_establishment | update_establishment => exact h.elim
  | create_mission cmd =>
    obtain ⟨_, hexecute, rfl⟩ := map_payload_eq_ok_iff.mp hprepare
    simp only [CreateMission.execute, bind_eq_ok_iff, pure_eq_ok, Except.ok.injEq, Prod.mk.injEq] at hexecute
    obtain ⟨_, -, _, -, saved, hsaved, -, rfl⟩ := hexecute
    exact List.forall_mem_singleton.mpr (MissionRepositoryImpl.save_spares hsaved)
  | approve_mission cmd =>
    obtain ⟨_, hexecute, rfl⟩ := map_payload_eq_ok_iff.mp hprepare
    obtain ⟨_, _, _, -, rfl⟩ := ApproveMission.execute_eq_ok_iff.mp hexecute
    exact List.forall_mem_singleton.mpr trivial
  | cancel_mission cmd =>
    obtain ⟨_, hexecute, rfl⟩ := map_payload_eq_ok_iff.mp hprepare
    obtain ⟨_, _, _, -, rfl⟩ := CancelMission.execute_eq_ok_iff.mp hexecute
    exact List.forall_mem_singleton.mpr trivial
  | reassign_inspector cmd =>
    obtain ⟨_, hexecute, rfl⟩ := map_payload_eq_ok_iff.mp hprepare
    simp only [ReassignInspector.execute, bind_eq_ok_iff, pure_eq_ok, Except.ok.injEq, Prod.mk.injEq] at hexecute
    obtain ⟨_, -, _, -, _, -, updated, hupdated, saved, hsaved, -, rfl⟩ := hexecute
    exact List.forall_mem_cons.mpr ⟨MissionRepositoryImpl.save_spares hupdated,
      List.forall_mem_singleton.mpr (MissionRepositoryImpl.save_spares hsaved)⟩
  | update_mission mission_id body =>
    obtain ⟨_, hexecute, rfl⟩ := map_payload_eq_ok_iff.mp hprepare
    obtain ⟨_, _, _, _, -, rfl⟩ := update_mission_eq_ok_iff.mp hexecute
    exact List.forall_mem_singleton.mpr trivial
  | check_in cmd =>
    obtain ⟨_, hexecute, rfl⟩ := map_payload_eq_ok_iff.mp hprepare
    refine spares_of_idempotent hexecute fun answer effects hbody => ?_
    obtain ⟨_, _, _, _, rfl⟩ := CheckInInspector.body_eq_ok_iff.mp hbody
    exact List.forall_mem_cons.mpr ⟨SiteVisitRepositoryImpl.save_spares _ _, List.forall_mem_singleton.mpr trivial⟩
  | confirm_host cmd =>
    obtain ⟨_, hexecute, rfl⟩ := map_payload_eq_ok_iff.mp hprepare
    refine spares_of_idempotent hexecute fun answer effects hbody => ?_
    obtain ⟨_, _, _, _, _, consumed, _, _, hadmits, _, rfl⟩ := ConfirmHostPresence.body_eq_ok_iff.mp hbody
    refine List.forall_mem_append.mpr ⟨fun write hwrite => ?_, List.forall_mem_cons.mpr
      ⟨SiteVisitRepositoryImpl.save_spares _ _,
        List.forall_mem_cons.mpr ⟨trivial, List.forall_mem_singleton.mpr trivial⟩⟩⟩
    cases hadmits.accepts with
    | qr_jwt =>
      rw [List.mem_singleton.mp hwrite]
      trivial
    | app_gps | qr_token | sms => cases hwrite
  | check_out cmd =>
    obtain ⟨_, hexecute, rfl⟩ := map_payload_eq_ok_iff.mp hprepare
    refine spares_of_idempotent hexecute fun answer effects hbody => ?_
    obtain ⟨_, _, _, _, rfl⟩ := CheckOutVisit.body_eq_ok_iff.mp hbody
    exact List.forall_mem_singleton.mpr (SiteVisitRepositoryImpl.save_spares _ _)
  | delete_older_than cutoff =>
    cases hprepare
    intro write hwrite
    obtain ⟨_, -, rfl⟩ := List.mem_map.mp hwrite
    trivial

/-- The version of the geometry of an establishment there is. -/
def Store.shown_version (id : UUID) (s : Store F) : Option ℕ :=
  (s.establishments.get id).map fun row => row.geometry_version

/-- The request is a PATCH that gives some field of the geometry of the establishment. -/
def Call.versions (id : UUID) (call : Call F) : Bool :=
  match call.request with
  | .update_establishment establishment_id body => decide (establishment_id = id) && body.geo_changed
  | _ => false

def Response.geometry_version : Response F → Option ℕ
  | .establishment est => some est.geometry_version
  | _ => none

omit [LinearOrder F] [NatCast F] in
theorem Store.shown_version_eq_some_iff {id : UUID} {n : ℕ} : s.shown_version id = some n ↔
    ∃ row, s.establishments.get id = some row ∧ row.geometry_version = n := Option.map_eq_some_iff

omit [NatCast F] in
/-- What a PATCH that read one row makes of the version of another state of it. -/
theorem geometry_version_flush_patched (row current : EstablishmentModel F) (body : UpdateEstablishmentBody F) :
    (EstablishmentModel.flush row (apply_establishment_to_row (body.apply_to (establishment_to_domain row)) row)
      current).geometry_version = if body.geo_changed then row.geometry_version + 1 else current.geometry_version := by
  change column row.geometry_version (if body.geo_changed then row.geometry_version + 1 else row.geometry_version)
    current.geometry_version = _
  split
  · exact column_changed (Nat.succ_ne_self _)
  · exact column_unchanged

/-- The answer of a PATCH, and the version shown after its commit in the store as it then is. -/
theorem Call.shown_version_of_patch {establishment_id id : UUID} {body : UpdateEstablishmentBody F} {env : Env}
    {u : Store F} {n : ℕ}
    (hprepare : Call.prepare w ⟨.update_establishment establishment_id body, env⟩ s = .ok (r, writes))
    (hshown : t.shown_version id = some n) (hcommit : t.commit writes = some u) :
    ∃ row, s.establishments.get establishment_id = some row ∧
      r = .establishment (body.apply_to (establishment_to_domain row)) ∧
      u.shown_version id = some (if establishment_id = id ∧ body.geo_changed then row.geometry_version + 1 else n) := by
  obtain ⟨_, hexecute, rfl⟩ := map_payload_eq_ok_iff.mp hprepare
  obtain ⟨row, hrow, rfl, rfl⟩ := update_establishment_eq_ok_iff.mp hexecute
  refine ⟨row, hrow, rfl, ?_⟩
  obtain ⟨x, happly, hrest⟩ := Store.commit_cons_eq_some_iff.mp hcommit
  cases hrest
  obtain ⟨rows, hrows, rfl⟩ := Option.map_eq_some_iff.mp happly
  obtain ⟨current, hcurrent, rfl⟩ := Store.shown_version_eq_some_iff.mp hshown
  have hid : row.id = establishment_id := Table.key_of_get hrow
  have hget := Table.get_update (EstablishmentModel.keeps_flush row _) hrows id
  rw [Store.shown_version, hget, hid]
  by_cases hsame : id = establishment_id
  · subst hsame
    rw [if_pos rfl, hcurrent, Option.map_some, Option.map_some, geometry_version_flush_patched]
    simp
  · rw [if_neg hsame, hcurrent, if_neg fun h => hsame h.1.symm]
    rfl

theorem counter_geometry_version (w : World F) (id : UUID) :
    transactional.Counter (database w) (Store.shown_version id) (fun call => call.versions id = true)
      Response.geometry_version where
  read := by
    intro call s answer writes hprepare hcounts
    obtain ⟨request, env⟩ := call
    cases request with
    | update_establishment establishment_id body =>
      simp only [Call.versions, Bool.and_eq_true, decide_eq_true_eq] at hcounts
      obtain ⟨rfl, hchanged⟩ := hcounts
      obtain ⟨_, hexecute, rfl⟩ := map_payload_eq_ok_iff.mp hprepare
      obtain ⟨row, hrow, rfl, -⟩ := update_establishment_eq_ok_iff.mp hexecute
      refine ⟨row.geometry_version, Store.shown_version_eq_some_iff.mpr ⟨row, hrow, rfl⟩, congrArg some ?_⟩
      exact if_pos hchanged
    | _ => cases hcounts
  counted := by
    intro call s t u answer writes n hprepare hcounts hanswer hshown hcommit
    change call.prepare w s = _ at hprepare
    obtain ⟨request, env⟩ := call
    cases request with
    | update_establishment establishment_id body =>
      simp only [Call.versions, Bool.and_eq_true, decide_eq_true_eq] at hcounts
      obtain ⟨m, hm⟩ := Option.isSome_iff_exists.mp hshown
      obtain ⟨row, -, rfl, hu⟩ := Call.shown_version_of_patch hprepare hm hcommit
      rw [hu, if_pos hcounts, ← hanswer]
      exact congrArg some (if_pos hcounts.2).symm
    | _ => cases hcounts
  kept := by
    intro call s t u answer writes n hprepare hcounts hshown hcommit
    change call.prepare w s = _ at hprepare
    obtain ⟨request, env⟩ := call
    cases request with
    | update_establishment establishment_id body =>
      simp only [Call.versions, Bool.and_eq_true, decide_eq_true_eq] at hcounts
      obtain ⟨row, -, -, hu⟩ := Call.shown_version_of_patch hprepare hshown hcommit
      rw [hu, if_neg hcounts]
    | create_establishment cmd =>
      cases hprepare
      obtain ⟨rows, hrows, hnil⟩ := Store.commit_add_establishment.mp hcommit
      cases hnil
      obtain ⟨row, hrow, rfl⟩ := Store.shown_version_eq_some_iff.mp hshown
      exact Store.shown_version_eq_some_iff.mpr ⟨row, Table.get_insert_of_some hrows hrow, rfl⟩
    | _ =>
      have hsame := Store.establishments_of_commit (Call.spares_establishments hprepare trivial) hcommit
      rwa [Store.shown_version, hsame]

variable {ι : Type} [DecidableEq ι] {request : ι → Call F} {s₀ : Store F} {labels : List (Event ι)}
  {c : Config (Store F) ι (Response F) (List (Write F)) Error}

/-- In every interleaving of requests, the version of the geometry of an establishment is at most the
one it began with and the number of its geometry PATCHes that have committed. It is that exactly
when no two of those overlap, and exactly then no two of them have answered one version. -/
theorem geometry_versions_of_interleaving {id : UUID} {row : EstablishmentModel F}
    (hrun : Execution (Step (database w) request) (Config.start s₀) labels c)
    (hrow : s₀.establishments.get id = some row) :
    ∃ row', c.store.establishments.get id = some row' ∧ row.geometry_version ≤ row'.geometry_version ∧
      row'.geometry_version ≤
        row.geometry_version + total request (fun call => call.versions id = true) labels ∧
      (row'.geometry_version = row.geometry_version + total request (fun call => call.versions id = true) labels ↔
        CountApart (database w) request (fun call => call.versions id = true) s₀ labels c) ∧
      (c.Distinguishes request (fun call => call.versions id = true) Response.geometry_version ↔
        CountApart (database w) request (fun call => call.versions id = true) s₀ labels c) := by
  obtain ⟨m, htally⟩ := (counter_geometry_version w id).exists_tally hrun
    (Store.shown_version_eq_some_iff.mpr ⟨row, hrow, rfl⟩)
  obtain ⟨row', hrow', rfl⟩ := Store.shown_version_eq_some_iff.mp htally.shown
  exact ⟨row', hrow', htally.ge, htally.le, htally.eq_iff, htally.distinguishes_iff⟩

namespace pilot

noncomputable def moved (second : Bool) : UpdateEstablishmentBody ℝ where
  center_lat := some (if second then -1 else 1)

/-- Two PATCHes move the school, each to a latitude of its own. -/
noncomputable def moves (second : Bool) : Call ℝ where
  request := .update_establishment ⟨"school"⟩ (moved second)
  env := surroundings (if second then "2" else "1") 10

theorem prepare_moves (second : Bool) : ∃ r written, (database world).prepare (moves second) opened =
    .ok (r, [.update_establishment school written]) := by
  have hrow : opened.establishments.get ⟨"school"⟩ = some school := rfl
  have hexecute : update_establishment ⟨"school"⟩ (moved second) opened = .ok (_, _) :=
    update_establishment_eq_ok_iff.mpr ⟨school, hrow, rfl, rfl⟩
  exact ⟨_, _, map_payload_eq_ok_iff.mpr ⟨_, hexecute, rfl⟩⟩

theorem commit_moves {s : Store ℝ} (hrow : (s.establishments.get ⟨"school"⟩).isSome) (written : EstablishmentModel ℝ) :
    ∃ t, s.commit [.update_establishment school written] = some t ∧ (t.establishments.get ⟨"school"⟩).isSome := by
  obtain ⟨row, hrow⟩ := Option.isSome_iff_exists.mp hrow
  obtain ⟨rows, hrows, -⟩ := Table.update_of_keeps (EstablishmentModel.keeps_flush school written) hrow
  refine ⟨{ s with establishments := rows }, ?_, ?_⟩
  · exact Store.commit_cons_eq_some_iff.mpr ⟨_, Option.map_eq_some_iff.mpr ⟨rows, hrows, rfl⟩, rfl⟩
  · rw [Table.get_update (EstablishmentModel.keeps_flush school written) hrows, if_pos rfl, hrow]
    rfl

/-- Both read the school, then both commit. -/
theorem run_moves : ∃ c, Execution (Step (database world) moves) (Config.start opened)
    [.read false, .read true, .commit false, .commit true] c ∧
    Overlap (database world) moves opened [.read false, .read true, .commit false, .commit true] c false true := by
  obtain ⟨r, written, hprepare⟩ := prepare_moves false
  obtain ⟨r', written', hprepare'⟩ := prepare_moves true
  obtain ⟨t, hcommit, hrow⟩ := commit_moves (s := opened) rfl written
  obtain ⟨u, hcommit', -⟩ := commit_moves hrow written'
  let both : Config (Store ℝ) Bool (Response ℝ) (List (Write ℝ)) Error :=
    ⟨opened, Function.update (Function.update (fun _ => .waiting) false
      (.prepared r [.update_establishment school written])) true (.prepared r' [.update_establishment school written'])⟩
  let one : Config (Store ℝ) Bool (Response ℝ) (List (Write ℝ)) Error :=
    ⟨t, Function.update both.phase false (.answered r [.update_establishment school written])⟩
  have hreads : Execution (Step (database world) moves) (Config.start opened) [.read false, .read true] both :=
    (Execution.refl.snoc (Step.read_ok rfl hprepare)).snoc (Step.read_ok rfl hprepare')
  have hfirst : Step (database world) moves both (.commit false) one := .commit rfl hcommit
  have hsecond : Step (database world) moves one (.commit true) _ := .commit rfl hcommit'
  have hcommits := (Execution.single hfirst).snoc hsecond
  exact ⟨_, hreads.trans hcommits, _, _, both, rfl, hreads, hcommits, ⟨_, _, rfl⟩, _, _, rfl⟩

end pilot

/-- Both moves of the school answer one version. -/
theorem pilot_moves_share_a_version : ∃ c, Execution (Step (database pilot.world) pilot.moves)
    (Config.start pilot.opened) [.read false, .read true, .commit false, .commit true] c ∧
    ¬ c.Distinguishes pilot.moves (fun call => call.versions ⟨"school"⟩ = true) Response.geometry_version := by
  obtain ⟨c, hrun, hoverlap⟩ := pilot.run_moves
  have hschool : pilot.opened.establishments.get ⟨"school"⟩ = some pilot.school := rfl
  obtain ⟨row', -, -, -, -, hdistinguishes⟩ := geometry_versions_of_interleaving hrun hschool
  refine ⟨c, hrun, fun h => ?_⟩
  exact hdistinguishes.mp h false (by decide) true (by decide) Bool.false_ne_true rfl rfl hoverlap

end sigis
