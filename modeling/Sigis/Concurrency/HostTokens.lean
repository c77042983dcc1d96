import Sigis.Concurrency.Sheet
import Sigis.Lib.Cells
import Sigis.Lib.Ledger
import Sigis.Visits.HostTokens

open guarded relational transactional transition

namespace sigis

open accounts (JwtPackage)

variable {F : Type}

/-- The nonces a write consumes. -/
def Write.nonces : Write F → List String
  | .add_used_qr_jti row => [row.jti]
  | _ => []

/-- The nonces that have been consumed, in order. -/
def Store.nonces (s : Store F) : List String := s.used_qr_jti.rows.map UsedQrJtiModel.jti

theorem Store.nodup_nonces (s : Store F) : s.nonces.Nodup := by
  refine List.Pairwise.map _ ?_ s.used_qr_jti.distinct
  intro a b hclash heq
  exact hclash (clash_of_key heq)

section commits

variable [DecidableEq F] {s t : Store F}

/-- A write that is not about nonces leaves them. -/
theorem Write.nonces_apply {write : Write F} (h : write.apply s = some t) : t.nonces = s.nonces ++ write.nonces := by
  cases write with
  | add_used_qr_jti row =>
    obtain ⟨rows, hrows, rfl⟩ := Option.map_eq_some_iff.mp h
    change rows.rows.map _ = _
    rw [Table.rows_insert hrows, List.map_append]
    rfl
  | delete_idempotency_record id =>
    cases h
    exact (List.append_nil _).symm
  | _ =>
    obtain ⟨rows, -, rfl⟩ := Option.map_eq_some_iff.mp h
    exact (List.append_nil _).symm

theorem Store.nonces_commit {writes : List (Write F)} (h : s.commit writes = some t) :
    t.nonces = s.nonces ++ writes.flatMap Write.nonces := by
  induction writes generalizing s with
  | nil =>
    cases h
    exact (List.append_nil _).symm
  | cons write writes ih =>
    obtain ⟨u, happly, hrest⟩ := Store.commit_cons_eq_some_iff.mp h
    rw [ih hrest, Write.nonces_apply happly, List.flatMap_cons, List.append_assoc]

end commits

variable [LinearOrder F] [NatCast F] {w : World F}

theorem appends_nonces : Appends (database w) Store.nonces fun writes => writes.flatMap Write.nonces where
  commit := Store.nonces_commit

variable {ι : Type} [DecidableEq ι] {request : ι → Call F} {s₀ s : Store F} {labels : List (Event ι)}
  {c : Config (Store F) ι (Response F) (List (Write F)) Error} {i j : ι} {token jti : String} {r : Response F}
  {writes : List (Write F)}

/-- The request shows the token to confirm a visit that waits for a QR code, and nothing is
recorded under its key. -/
structure Call.ShowsTo (call : Call F) (token : String) (s : Store F) : Prop where
  shown : ∃ cmd : ConfirmHostCommand F, call.request = .confirm_host cmd ∧ cmd.qr_jwt = some token ∧
    s.recorded cmd.scope cmd.client_request_id = none ∧
    ∃ v, s.site_visits.get cmd.site_visit_id = some v ∧ v.host_validation_mode = some .QR_STATIC

/-- Such a request is only answered by consuming the nonce of its token. -/
theorem Call.ShowsTo.consumes {call : Call F} (h : call.ShowsTo token s)
    (hnonce : ∀ mission decoded_at now accepted,
      verify_host_qr_jwt w.jwt w.settings token mission decoded_at now = .ok accepted → accepted = jti)
    (hprepare : call.prepare w s = .ok (r, writes)) : jti ∈ writes.flatMap Write.nonces := by
  obtain ⟨cmd, hrequest, hshown, hfree, v, hv, hmode⟩ := h.shown
  obtain ⟨request, env⟩ := call
  cases hrequest
  obtain ⟨payload, hexecute, rfl⟩ := map_payload_eq_ok_iff.mp hprepare
  rcases idempotent_eq_ok_iff.mp hexecute with ⟨record, hrecord, -⟩ | ⟨-, effects, hbody, rfl⟩
  · rw [hfree] at hrecord
    cases hrecord
  · obtain ⟨v', m, est, mode, host, consumed, latitude, longitude, hadmits, rfl, rfl⟩ :=
      ConfirmHostPresence.body_eq_ok_iff.mp hbody
    obtain rfl := Option.some.inj (hadmits.visit.symm.trans hv)
    obtain rfl := Option.some.inj (hadmits.validation_mode.symm.trans hmode)
    have haccepts := hadmits.accepts
    generalize hmodes : HostValidationMode.QR_STATIC = mode at haccepts
    cases haccepts with
    | app_gps | sms => cases hmodes
    | qr_token hjwt =>
      rw [hshown] at hjwt
      cases hjwt
    | qr_jwt hjwt hverify =>
      obtain rfl := Option.some.inj (hjwt.symm.trans hshown)
      rw [hnonce _ _ _ _ hverify]
      simp [Write.nonces]

/-- The request shows the token to a visit as it reads it, and is answered. -/
structure Confirms (w : World F) (request : ι → Call F) (s₀ : Store F) (labels : List (Event ι))
    (c : Config (Store F) ι (Response F) (List (Write F)) Error) (token : String) (i : ι) : Prop where
  read : ∃ d d', Takes (Step (database w) request) (Config.start s₀) labels c d (.read i) d' ∧
    (request i).ShowsTo token d.store
  answered : ∃ r writes, c.phase i = .answered r writes

/-- Whatever the interleaving: of the requests that show one token, to whatever visits that wait
for a QR code, at most one is answered. -/
theorem host_qr_confirms_once {p : JwtPackage} {settings : AppSettings} {mission : Mission}
    {ttl_minutes issued_at : Int} (hp : p.Lawful)
    (hissued : create_host_qr_jwt p.encode_host_qr settings ttl_minutes mission issued_at jti = .ok token)
    (hjti : jti.length = 32) (hjwt : w.jwt = p.host_qr) (hsettings : w.settings = settings)
    (hrun : Execution (Step (database w) request) (Config.start s₀) labels c)
    (hi : Confirms w request s₀ labels c token i) (hj : Confirms w request s₀ labels c token j) : i = j := by
  have hnonce : ∀ verified decoded_at now accepted,
      verify_host_qr_jwt w.jwt w.settings token verified decoded_at now = .ok accepted → accepted = jti := by
    intro verified decoded_at now accepted haccepted
    rw [hjwt, hsettings] at haccepted
    exact ((verify_issued_eq_ok_iff hp hissued hjti).mp haccepted).1
  have hadded {k : ι} (hk : Confirms w request s₀ labels c token k) :
      k ∈ committed labels ∧ jti ∈ c.added (fun writes => writes.flatMap Write.nonces) k := by
    obtain ⟨⟨d, d', ⟨before, after, -, -, hread, hafter⟩, hshows⟩, r, writes, hanswered⟩ := hk
    obtain ⟨hprepare, -, -⟩ := pending_of_read hread hafter hanswered
    refine ⟨(mem_committed_iff hrun).mpr ⟨r, writes, hanswered⟩, ?_⟩
    rw [Config.added_of_answered hanswered]
    exact hshows.consumes hnonce hprepare
  exact appends_nonces.eq_of_added hrun c.store.nodup_nonces (hadded hi).1 (hadded hj).1 (hadded hi).2 (hadded hj).2

namespace pilot

/-- The token of the mission is shown under a key. -/
noncomputable def showing (client_request_id tag : String) : Call ℝ where
  request := .confirm_host { confirm "host" client_request_id with
    qr_token := none
    qr_jwt := some pilot.token }
  env := surroundings tag 20

/-- It is shown twice. -/
noncomputable def showings : Bool → Call ℝ
  | true => showing "confirm-1" "2"
  | false => showing "confirm-2" "3"

theorem admits_showing (client_request_id tag : String) :
    ConfirmHostPresence.Admits token_world (surroundings tag 20)
      { confirm "host" client_request_id with qr_token := none, qr_jwt := some pilot.token } waiting visit hour_mission
      school .QR_STATIC none [.add_used_qr_jti ⟨accounts.numbered.jti, ⟨"mission"⟩, datetime.utc 20⟩] 0 0 where
  visit := rfl
  mission_id := rfl
  mission := rfl
  approved := by decide
  establishment := rfl
  authorised := by
    intro user_id h
    cases h
  validation_mode := rfl
  accepts := .qr_jwt rfl verified rfl
  pending := rfl
  latitude := rfl
  longitude := rfl

theorem prepare_showing (i : Bool) : ∃ r writes t,
    (database token_world).prepare (showings i) waiting = .ok (r, writes) ∧
      (database token_world).commit waiting writes = some t := by
  have hshowing (client_request_id tag : String) (hfresh : (surroundings tag 20).Fresh waiting) :
      ∃ r writes t, (database token_world).prepare (showing client_request_id tag) waiting = .ok (r, writes) ∧
        (database token_world).commit waiting writes = some t := by
    obtain ⟨t, hconfirmed, -⟩ := (admits_showing client_request_id tag).served hfresh rfl
    have hexec : exec token_world (showing client_request_id tag) waiting = (_, t) :=
      (Outcome.confirm_host hconfirmed).exec hfresh
    obtain ⟨writes, hprepare, hcommit⟩ := Database.run_eq_ok_iff.mp hexec
    exact ⟨_, writes, t, hprepare, hcommit⟩
  cases i with
  | true => exact hshowing "confirm-1" "2" (by decide)
  | false => exact hshowing "confirm-2" "3" (by decide)

theorem showsTo_waiting (i : Bool) : (showings i).ShowsTo pilot.token waiting := by
  cases i <;> exact ⟨_, rfl, rfl, rfl, visit, rfl, rfl⟩

/-- Both showings read the visit, and the first one confirms it. -/
theorem run_showings : ∃ c, Execution (Step (database token_world) showings) (Config.start waiting)
    [.read true, .read false, .commit true] c ∧
    Confirms token_world showings waiting [.read true, .read false, .commit true] c pilot.token true := by
  obtain ⟨r, writes, t, hprepare, hcommit⟩ := prepare_showing true
  obtain ⟨r', writes', -, hprepare', -⟩ := prepare_showing false
  let first : Config (Store ℝ) Bool (Response ℝ) (List (Write ℝ)) Error :=
    ⟨waiting, Function.update (fun _ => .waiting) true (.prepared r writes)⟩
  have hread : Step (database token_world) showings (Config.start waiting) (.read true) first := .read_ok rfl hprepare
  let both : Config (Store ℝ) Bool (Response ℝ) (List (Write ℝ)) Error :=
    ⟨waiting, Function.update first.phase false (.prepared r' writes')⟩
  have hagain : Step (database token_world) showings first (.read false) both := .read_ok rfl hprepare'
  have hanswer : Step (database token_world) showings both (.commit true)
      ⟨t, Function.update both.phase true (.answered r writes)⟩ := .commit rfl hcommit
  refine ⟨_, .snoc (.snoc (.single hread) hagain) hanswer, ?_, r, writes, rfl⟩
  exact ⟨_, _, ⟨[], _, rfl, .refl, hread, .cons hagain (.single hanswer)⟩, showsTo_waiting true⟩

end pilot

theorem pilot_token_confirms_once : ∃ c, Execution (Step (database pilot.token_world) pilot.showings)
    (Config.start pilot.waiting) [.read true, .read false, .commit true] c ∧
    ¬ Confirms pilot.token_world pilot.showings pilot.waiting [.read true, .read false, .commit true] c pilot.token
      false := by
  obtain ⟨c, hrun, hconfirms⟩ := pilot.run_showings
  refine ⟨c, hrun, fun hagain => ?_⟩
  cases host_qr_confirms_once accounts.numbered.lawful pilot.issued (by decide) rfl rfl hrun hconfirms hagain

end sigis
