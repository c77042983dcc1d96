import Sigis.Persistence.Mappers

open relational

namespace sigis

/-- The committed tables the modelled requests read and write. -/
structure Store (F : Type) where
  users : Table UserModel
  establishments : Table (EstablishmentModel F)
  missions : Table MissionModel
  site_visits : Table (SiteVisitModel F)
  presence_proofs : Table (PresenceProofModel F)
  copresence_events : Table CoPresenceEventModel
  idempotency_records : Table IdempotencyRecordModel
  used_qr_jti : Table UsedQrJtiModel

/-- What a session holds pending until its commit: rows to insert, loaded rows with
other attribute values, rows to delete. -/
inductive Write (F : Type)
  | add_establishment (row : EstablishmentModel F)
  | update_establishment (loaded written : EstablishmentModel F)
  | add_mission (row : MissionModel)
  | update_mission (loaded written : MissionModel)
  | add_site_visit (row : SiteVisitModel F)
  | update_site_visit (loaded written : SiteVisitModel F)
  | add_presence_proof (row : PresenceProofModel F)
  | add_copresence_event (row : CoPresenceEventModel)
  | add_idempotency_record (row : IdempotencyRecordModel)
  | delete_idempotency_record (id : UUID)
  | add_used_qr_jti (row : UsedQrJtiModel)

variable {F : Type} [DecidableEq F]

/-- One statement against the committed tables; `none` when a declared constraint
refuses it. -/
def Write.apply (s : Store F) : Write F → Option (Store F)
  | .add_establishment row =>
    (s.establishments.insert row.stored).map fun t => { s with establishments := t }
  | .update_establishment loaded written =>
    (s.establishments.update loaded.id (EstablishmentModel.flush loaded written)).map
      fun t => { s with establishments := t }
  | .add_mission row => (s.missions.insert row.stored).map fun t => { s with missions := t }
  | .update_mission loaded written =>
    (s.missions.update loaded.id (MissionModel.flush loaded written)).map
      fun t => { s with missions := t }
  | .add_site_visit row =>
    (s.site_visits.insert row.stored).map fun t => { s with site_visits := t }
  | .update_site_visit loaded written =>
    (s.site_visits.update loaded.id (SiteVisitModel.flush loaded written)).map
      fun t => { s with site_visits := t }
  | .add_presence_proof row =>
    (s.presence_proofs.insert row.stored).map fun t => { s with presence_proofs := t }
  | .add_copresence_event row =>
    (s.copresence_events.insert row.stored).map fun t => { s with copresence_events := t }
  | .add_idempotency_record row =>
    (s.idempotency_records.insert row.stored).map fun t => { s with idempotency_records := t }
  | .delete_idempotency_record id =>
    some { s with idempotency_records := s.idempotency_records.delete fun r => r.id = id }
  | .add_used_qr_jti row =>
    (s.used_qr_jti.insert row.stored).map fun t => { s with used_qr_jti := t }

/-- `session.commit()`: every pending statement, or none of them. -/
def Store.commit (s : Store F) : List (Write F) → Option (Store F)
  | [] => some s
  | write :: rest => (write.apply s).bind fun t => t.commit rest

@[simp] theorem Store.commit_nil (s : Store F) : s.commit [] = some s := rfl

/-- Statements are executed one after the other. -/
theorem Store.commit_cons (s : Store F) (write : Write F) (rest : List (Write F)) :
    s.commit (write :: rest) = (write.apply s).bind fun t => t.commit rest := rfl

/-- A commit goes through when its first statement does, and then the others. -/
theorem Store.commit_cons_eq_some_iff {s t : Store F} {write : Write F} {rest : List (Write F)} :
    s.commit (write :: rest) = some t ↔ ∃ u, write.apply s = some u ∧ u.commit rest = some t :=
  Option.bind_eq_some_iff

/-- A commit of two lists is that of the first and then of the second. -/
theorem Store.commit_append (s : Store F) (first rest : List (Write F)) :
    s.commit (first ++ rest) = (s.commit first).bind fun t => t.commit rest := by
  induction first generalizing s with
  | nil => rfl
  | cons write first ih =>
    simp only [List.cons_append, Store.commit_cons, Option.bind_assoc]
    congr
    funext t
    exact ih t

section commit

variable {s t : Store F} {rest : List (Write F)}

theorem Store.commit_add_establishment {row : EstablishmentModel F} :
    s.commit (.add_establishment row :: rest) = some t ↔
      ∃ rows, s.establishments.insert row.stored = some rows ∧
        Store.commit { s with establishments := rows } rest = some t := by
  simp only [Store.commit_cons_eq_some_iff, Write.apply, Option.map_eq_some_iff,
    exists_exists_and_eq_and]

theorem Store.commit_add_mission {row : MissionModel} :
    s.commit (.add_mission row :: rest) = some t ↔
      ∃ rows, s.missions.insert row.stored = some rows ∧
        Store.commit { s with missions := rows } rest = some t := by
  simp only [Store.commit_cons_eq_some_iff, Write.apply, Option.map_eq_some_iff,
    exists_exists_and_eq_and]

theorem Store.commit_add_site_visit {row : SiteVisitModel F} :
    s.commit (.add_site_visit row :: rest) = some t ↔
      ∃ rows, s.site_visits.insert row.stored = some rows ∧
        Store.commit { s with site_visits := rows } rest = some t := by
  simp only [Store.commit_cons_eq_some_iff, Write.apply, Option.map_eq_some_iff,
    exists_exists_and_eq_and]

theorem Store.commit_add_presence_proof {row : PresenceProofModel F} :
    s.commit (.add_presence_proof row :: rest) = some t ↔
      ∃ rows, s.presence_proofs.insert row.stored = some rows ∧
        Store.commit { s with presence_proofs := rows } rest = some t := by
  simp only [Store.commit_cons_eq_some_iff, Write.apply, Option.map_eq_some_iff,
    exists_exists_and_eq_and]

theorem Store.commit_add_copresence_event {row : CoPresenceEventModel} :
    s.commit (.add_copresence_event row :: rest) = some t ↔
      ∃ rows, s.copresence_events.insert row.stored = some rows ∧
        Store.commit { s with copresence_events := rows } rest = some t := by
  simp only [Store.commit_cons_eq_some_iff, Write.apply, Option.map_eq_some_iff,
    exists_exists_and_eq_and]

theorem Store.commit_add_idempotency_record {row : IdempotencyRecordModel} :
    s.commit (.add_idempotency_record row :: rest) = some t ↔
      ∃ rows, s.idempotency_records.insert row.stored = some rows ∧
        Store.commit { s with idempotency_records := rows } rest = some t := by
  simp only [Store.commit_cons_eq_some_iff, Write.apply, Option.map_eq_some_iff,
    exists_exists_and_eq_and]

theorem Store.commit_add_used_qr_jti {row : UsedQrJtiModel} :
    s.commit (.add_used_qr_jti row :: rest) = some t ↔
      ∃ rows, s.used_qr_jti.insert row.stored = some rows ∧
        Store.commit { s with used_qr_jti := rows } rest = some t := by
  simp only [Store.commit_cons_eq_some_iff, Write.apply, Option.map_eq_some_iff,
    exists_exists_and_eq_and]

/-- On the row it was loaded from, a flush replaces that row. -/
theorem Store.commit_update_establishment {loaded written : EstablishmentModel F} (h : loaded ∈ s.establishments.rows) :
    s.commit (.update_establishment loaded written :: rest) = some t ↔
      ∃ rows, Table.Replaces s.establishments loaded (EstablishmentModel.flush loaded written loaded) rows ∧
        Store.commit { s with establishments := rows } rest = some t := by
  have hget : s.establishments.get loaded.id = some loaded := Table.get_of_mem h
  simp only [Store.commit_cons_eq_some_iff, Write.apply, Option.map_eq_some_iff,
    exists_exists_and_eq_and,
    Table.update_eq_some_iff_replaces (EstablishmentModel.keeps_flush loaded written) hget]

/-- On the row it was loaded from, a flush replaces that row. -/
theorem Store.commit_update_mission {loaded written : MissionModel} (h : loaded ∈ s.missions.rows) :
    s.commit (.update_mission loaded written :: rest) = some t ↔
      ∃ rows, Table.Replaces s.missions loaded (MissionModel.flush loaded written loaded) rows ∧
        Store.commit { s with missions := rows } rest = some t := by
  have hget : s.missions.get loaded.id = some loaded := Table.get_of_mem h
  simp only [Store.commit_cons_eq_some_iff, Write.apply, Option.map_eq_some_iff,
    exists_exists_and_eq_and,
    Table.update_eq_some_iff_replaces (MissionModel.keeps_flush loaded written) hget]

/-- On the row it was loaded from, a flush replaces that row. -/
theorem Store.commit_update_site_visit {loaded written : SiteVisitModel F} (h : loaded ∈ s.site_visits.rows) :
    s.commit (.update_site_visit loaded written :: rest) = some t ↔
      ∃ rows, Table.Replaces s.site_visits loaded (SiteVisitModel.flush loaded written loaded) rows ∧
        Store.commit { s with site_visits := rows } rest = some t := by
  have hget : s.site_visits.get loaded.id = some loaded := Table.get_of_mem h
  simp only [Store.commit_cons_eq_some_iff, Write.apply, Option.map_eq_some_iff,
    exists_exists_and_eq_and,
    Table.update_eq_some_iff_replaces (SiteVisitModel.keeps_flush loaded written) hget]

/-- Records deleted one after the other are deleted together. -/
theorem Store.commit_delete_idempotency_records (ids : List UUID) (s : Store F) :
    s.commit (ids.map .delete_idempotency_record) =
      some { s with idempotency_records := s.idempotency_records.delete fun r => r.id ∈ ids } := by
  induction ids generalizing s with
  | nil =>
    have hnone : (s.idempotency_records.delete fun r => r.id ∈ ([] : List UUID)) =
        s.idempotency_records := Table.ext (by simp [Table.delete])
    rw [List.map_nil, Store.commit_nil, hnone]
  | cons id ids ih =>
    rw [List.map_cons, Store.commit_cons, Write.apply, Option.bind_some, ih]
    congr 2
    apply Table.ext
    simp only [Table.delete, List.filter_filter, List.mem_cons]
    refine List.filter_congr ?_
    intro r _
    by_cases h : r.id = id <;> simp [h]

end commit

/-- An identifier that some row carries, as its own or as a reference. -/
def Store.identifiers (s : Store F) : List UUID :=
  s.users.rows.map (·.id) ++
  s.establishments.rows.flatMap (fun r =>
    [r.id] ++ r.parent_establishment_id.toList ++ r.designated_host_user_id.toList) ++
  s.missions.rows.flatMap (fun r =>
    [r.id, r.establishment_id, r.inspector_id, r.host_token] ++
      r.designated_host_user_id.toList ++ r.previous_mission_id.toList) ++
  s.site_visits.rows.flatMap (fun r => [r.id, r.mission_id]) ++
  s.presence_proofs.rows.flatMap (fun r => [r.id, r.site_visit_id, r.actor_user_id]) ++
  s.copresence_events.rows.flatMap (fun r => [r.id, r.site_visit_id]) ++
  s.idempotency_records.rows.map (·.id) ++
  s.used_qr_jti.rows.map (·.mission_id)

section identifiers

omit [DecidableEq F]

variable {s : Store F} {id : UUID}

/-- No mission has an identifier that is not in the store. -/
theorem Store.get_mission_of_not_mem (h : id ∉ s.identifiers) : s.missions.get id = none := by
  rw [Table.get_eq_none_iff]
  rintro r hr rfl
  apply h
  simp only [identifiers, List.mem_append, List.mem_flatMap]
  grind [key_mission]

/-- Nor has one such a token. -/
theorem Store.host_token_ne_of_not_mem (h : id ∉ s.identifiers) {m : MissionModel}
    (hm : m ∈ s.missions.rows) : m.host_token ≠ id := by
  rintro rfl
  apply h
  simp only [identifiers, List.mem_append, List.mem_flatMap]
  grind

/-- Nor has an establishment such an identifier. -/
theorem Store.establishment_ne_of_not_mem (h : id ∉ s.identifiers) {r : EstablishmentModel F}
    (hr : r ∈ s.establishments.rows) : r.id ≠ id := by
  rintro rfl
  apply h
  simp only [identifiers, List.mem_append, List.mem_flatMap]
  grind

/-- Nor has a visit. -/
theorem Store.get_site_visit_of_not_mem (h : id ∉ s.identifiers) :
    s.site_visits.get id = none := by
  rw [Table.get_eq_none_iff]
  rintro r hr rfl
  apply h
  simp only [identifiers, List.mem_append, List.mem_flatMap]
  grind [key_site_visit]

/-- Nor has a proof. -/
theorem Store.proof_ne_of_not_mem (h : id ∉ s.identifiers) {p : PresenceProofModel F}
    (hp : p ∈ s.presence_proofs.rows) : p.id ≠ id := by
  rintro rfl
  apply h
  simp only [identifiers, List.mem_append, List.mem_flatMap]
  grind

/-- Nor has an event. -/
theorem Store.event_ne_of_not_mem (h : id ∉ s.identifiers) {e : CoPresenceEventModel}
    (he : e ∈ s.copresence_events.rows) : e.id ≠ id := by
  rintro rfl
  apply h
  simp only [identifiers, List.mem_append, List.mem_flatMap]
  grind

/-- Nor has a record. -/
theorem Store.record_ne_of_not_mem (h : id ∉ s.identifiers) {r : IdempotencyRecordModel}
    (hr : r ∈ s.idempotency_records.rows) : r.id ≠ id := by
  rintro rfl
  apply h
  simp only [identifiers, List.mem_append, List.mem_map]
  grind

/-- Nor does a proof name such a visit. -/
theorem Store.proof_visit_ne_of_not_mem (h : id ∉ s.identifiers) {p : PresenceProofModel F}
    (hp : p ∈ s.presence_proofs.rows) : p.site_visit_id ≠ id := by
  rintro rfl
  apply h
  simp only [identifiers, List.mem_append, List.mem_flatMap]
  grind

/-- Nor does an event. -/
theorem Store.event_visit_ne_of_not_mem (h : id ∉ s.identifiers) {e : CoPresenceEventModel}
    (he : e ∈ s.copresence_events.rows) : e.site_visit_id ≠ id := by
  rintro rfl
  apply h
  simp only [identifiers, List.mem_append, List.mem_flatMap]
  grind

end identifiers

end sigis
