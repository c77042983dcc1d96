import Sigis.Application.Ports

open guarded relational

namespace sigis

structure UpdateEstablishmentBody (F : Type) where
  name : Option String := none
  center_lat : Option F := none
  center_lon : Option F := none
  radius_strict_m : Option F := none
  radius_relaxed_m : Option F := none
  minesec_code : Option String := none
  establishment_type : Option String := none
  contact_email : Option String := none
  contact_phone : Option String := none
  territory_code : Option String := none
  parent_establishment_id : Option UUID := none
  designated_host_user_id : Option UUID := none

variable {F : Type}

def UpdateEstablishmentBody.geo_changed (body : UpdateEstablishmentBody F) : Bool :=
  [body.center_lat, body.center_lon, body.radius_strict_m, body.radius_relaxed_m].any Option.isSome

/-- The establishment with the fields of the body that are given. -/
def UpdateEstablishmentBody.apply_to (body : UpdateEstablishmentBody F) (est : Establishment F) :
    Establishment F :=
  { est with
    name := body.name.getD est.name
    center_lat := body.center_lat.getD est.center_lat
    center_lon := body.center_lon.getD est.center_lon
    radius_strict_m := body.radius_strict_m.getD est.radius_strict_m
    radius_relaxed_m := body.radius_relaxed_m.getD est.radius_relaxed_m
    minesec_code := body.minesec_code.or est.minesec_code
    establishment_type := body.establishment_type.getD est.establishment_type
    contact_email := body.contact_email.or est.contact_email
    contact_phone := body.contact_phone.or est.contact_phone
    territory_code := body.territory_code.or est.territory_code
    parent_establishment_id := body.parent_establishment_id.or est.parent_establishment_id
    designated_host_user_id := body.designated_host_user_id.or est.designated_host_user_id
    geometry_version :=
      if body.geo_changed then est.geometry_version + 1 else est.geometry_version }

/-- `PATCH /establishments/{id}`. -/
def update_establishment (establishment_id : UUID) (body : UpdateEstablishmentBody F) (s : Store F) :
    Except Error (Establishment F × List (Write F)) := do
  let est ← get_or_raise (EstablishmentRepositoryImpl.get_by_id s establishment_id)
    (NotFound "Établissement introuvable.")
  let est := body.apply_to est
  return (est, EstablishmentRepositoryImpl.update s est)

theorem update_establishment_eq_ok_iff {establishment_id : UUID} {body : UpdateEstablishmentBody F}
    {s : Store F} {est : Establishment F} {writes : List (Write F)} :
    update_establishment establishment_id body s = .ok (est, writes) ↔
      ∃ row, s.establishments.get establishment_id = some row ∧
        est = body.apply_to (establishment_to_domain row) ∧
        writes = [.update_establishment row (apply_establishment_to_row est row)] := by
  simp only [update_establishment, bind_eq_ok_iff, get_or_raise_eq_ok, pure_eq_ok, Except.ok.injEq,
    Prod.mk.injEq, EstablishmentRepositoryImpl.get_by_id, Option.map_eq_some_iff]
  have hupdate : ∀ {row : EstablishmentModel F}, s.establishments.get establishment_id = some row →
      EstablishmentRepositoryImpl.update s (body.apply_to (establishment_to_domain row)) =
        [.update_establishment row
          (apply_establishment_to_row (body.apply_to (establishment_to_domain row)) row)] := by
    intro row hrow
    have hid : (body.apply_to (establishment_to_domain row)).id = establishment_id :=
      Table.key_of_get hrow
    simp only [EstablishmentRepositoryImpl.update, hid, hrow]
  constructor
  · rintro ⟨_, ⟨row, hrow, rfl⟩, rfl, rfl⟩
    exact ⟨row, hrow, rfl, hupdate hrow⟩
  · rintro ⟨row, hrow, rfl, rfl⟩
    exact ⟨_, ⟨row, hrow, rfl⟩, rfl, hupdate hrow⟩

end sigis
