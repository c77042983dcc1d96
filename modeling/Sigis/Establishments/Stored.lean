import Sigis.Requests.Progress

open guarded relational transactional transition

namespace sigis

variable {F : Type} [LinearOrder F] [NatCast F]

/-- The row a request leaves in the table of establishments: a creation the new one, a PATCH the
stored one with the fields of its body. -/
def Call.establishment_row (call : Call F) (s : Store F) : Option (EstablishmentModel F) :=
  match call.request with
  | .create_establishment cmd =>
    some (new_establishment_row (CreateEstablishment.establishment call.env cmd)).stored
  | .update_establishment establishment_id body =>
    (s.establishments.get establishment_id).map fun row =>
      row.assigned (body.apply_to (establishment_to_domain row))
  | _ => none

variable {w : World F} {call : Call F} {env : Env} {s t : Store F}

omit [NatCast F] in
/-- A PATCH has a row exactly when its establishment is stored. -/
theorem Call.establishment_row_update {establishment_id : UUID} {body : UpdateEstablishmentBody F} :
    Call.establishment_row ⟨.update_establishment establishment_id body, env⟩ s =
      (s.establishments.get establishment_id).map fun row =>
        row.assigned (body.apply_to (establishment_to_domain row)) := rfl

omit [LinearOrder F] [NatCast F] in
/-- An establishment can be stored under a fresh identifier. -/
theorem Env.Fresh.insert_establishment (h : env.Fresh s) (row : EstablishmentModel F)
    (hid : row.id = env.establishment_id) : ∃ rows, s.establishments.insert row = some rows := by
  refine Table.exists_insert ?_
  rintro a ha (hkey | hconflict)
  · exact Store.establishment_ne_of_not_mem (h _ env.establishment_id_mem) ha (hkey.trans hid)
  · cases hconflict

/-- What a request with one of the listed outcomes leads to is what serving it leads to. -/
theorem Served.eq_of_outcome {u : Store F} {r : Response F} (h : Served w s call t) (houtcome : Outcome w call s r u) :
    t = u := by
  have hexec := houtcome.exec h.1
  rw [← h.2, hexec]

/-- A request without such a row leaves the establishments as they are. -/
theorem Outcome.establishments_kept {r : Response F} (h : Outcome w call s r t)
    (hrow : call.establishment_row s = none) : t.establishments = s.establishments := by
  cases h with
  | create_establishment => cases hrow
  | update_establishment hstored =>
    rw [Call.establishment_row_update, hstored] at hrow
    cases hrow
  | check_in hdone | confirm_host hdone | check_out hdone => rw [hdone.frame]
  | _ => rfl

theorem Served.establishments_kept (h : Served w s call t) (hrow : call.establishment_row s = none) :
    t.establishments = s.establishments := by
  rcases h.outcome with rfl | ⟨r, houtcome⟩
  · rfl
  · exact houtcome.establishments_kept hrow

/-- Serving a request stores its row, and leaves the establishments with other identifiers. -/
theorem Served.get_establishment (h : Served w s call t) {row : EstablishmentModel F}
    (hrow : call.establishment_row s = some row) (id : UUID) :
    t.establishments.get id = if row.id = id then some row else s.establishments.get id := by
  obtain ⟨request, env⟩ := call
  cases request with
  | create_establishment cmd =>
    cases hrow
    obtain ⟨rows, hrows⟩ := h.1.insert_establishment
      (new_establishment_row (CreateEstablishment.establishment env cmd)).stored rfl
    rw [h.eq_of_outcome (.create_establishment hrows)]
    exact Table.get_insert hrows id
  | update_establishment establishment_id body =>
    rw [Call.establishment_row_update, Option.map_eq_some_iff] at hrow
    obtain ⟨old, hold, rfl⟩ := hrow
    obtain ⟨rows, hrows⟩ := Table.exists_replaces (EstablishmentModel.keeps_flush old
      (apply_establishment_to_row (body.apply_to (establishment_to_domain old)) old)) (Table.mem_of_get hold)
    rw [h.eq_of_outcome (.update_establishment hold hrows)]
    exact hrows.get id
  | _ => cases hrow

/-- The row of a request is stored. -/
theorem Served.stores_row (h : Served w s call t) {row : EstablishmentModel F}
    (hrow : call.establishment_row s = some row) : t.establishments.get row.id = some row := by
  rw [h.get_establishment hrow, if_pos rfl]

/-- A stored establishment was stored before, or is the row of the request. -/
theorem Served.mem_establishments (h : Served w s call t) {row : EstablishmentModel F}
    (hrow : row ∈ t.establishments.rows) : call.establishment_row s = some row ∨ row ∈ s.establishments.rows := by
  cases hwritten : call.establishment_row s with
  | none =>
    rw [h.establishments_kept hwritten] at hrow
    exact Or.inr hrow
  | some written =>
    have hget := Table.get_of_mem hrow
    rw [h.get_establishment hwritten] at hget
    split at hget
    · exact Or.inl hget
    · exact Or.inr (Table.mem_of_get hget)

end sigis
