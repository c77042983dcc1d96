import Sigis.Establishments.Stored

open guarded relational transactional transition

namespace sigis

variable {F : Type}

/-- The columns a geofence is made of. -/
def EstablishmentModel.geometry (row : EstablishmentModel F) : F × F × F × F :=
  (row.center_lat, row.center_lon, row.radius_strict_m, row.radius_relaxed_m)

/-- The version of the new row is the next one if its geometry is another, and the same if not. -/
structure EstablishmentModel.Versions (old new : EstablishmentModel F) : Prop where
  changed : new.geometry ≠ old.geometry → new.geometry_version = old.geometry_version + 1
  unchanged : new.geometry = old.geometry → new.geometry_version = old.geometry_version

/-- The body gives some field of the geometry, and none with another value than the stored one. -/
def UpdateEstablishmentBody.repeats_geometry (body : UpdateEstablishmentBody F) (row : EstablishmentModel F) : Prop :=
  body.geo_changed ∧
    (∀ lat ∈ body.center_lat, lat = row.center_lat) ∧ (∀ lon ∈ body.center_lon, lon = row.center_lon) ∧
    (∀ radius ∈ body.radius_strict_m, radius = row.radius_strict_m) ∧
    ∀ radius ∈ body.radius_relaxed_m, radius = row.radius_relaxed_m

/-- A field that is given or kept is the old one exactly when none is given with another value. -/
theorem getD_eq_iff {α : Type} {given : Option α} {old : α} : given.getD old = old ↔ ∀ a ∈ given, a = old := by
  cases given <;> simp

section patched

variable [LinearOrder F] {row : EstablishmentModel F} {body : UpdateEstablishmentBody F}

/-- The stored row after a PATCH. -/
abbrev EstablishmentModel.patched (row : EstablishmentModel F) (body : UpdateEstablishmentBody F) :
    EstablishmentModel F := row.assigned (body.apply_to (establishment_to_domain row))

theorem geometry_patched : (row.patched body).geometry = (body.center_lat.getD row.center_lat,
    body.center_lon.getD row.center_lon, body.radius_strict_m.getD row.radius_strict_m,
    body.radius_relaxed_m.getD row.radius_relaxed_m) := by
  simp [EstablishmentModel.patched, EstablishmentModel.assigned, EstablishmentModel.flush, EstablishmentModel.geometry,
    apply_establishment_to_row, UpdateEstablishmentBody.apply_to, establishment_to_domain]

theorem geometry_version_patched : (row.patched body).geometry_version =
    if body.geo_changed then row.geometry_version + 1 else row.geometry_version := by
  simp [EstablishmentModel.patched, EstablishmentModel.assigned, EstablishmentModel.flush,
    apply_establishment_to_row, UpdateEstablishmentBody.apply_to, establishment_to_domain]

/-- The geometry stays when the fields that are given have the stored values. -/
theorem geometry_patched_eq_iff : (row.patched body).geometry = row.geometry ↔
    (∀ lat ∈ body.center_lat, lat = row.center_lat) ∧ (∀ lon ∈ body.center_lon, lon = row.center_lon) ∧
      (∀ radius ∈ body.radius_strict_m, radius = row.radius_strict_m) ∧
      ∀ radius ∈ body.radius_relaxed_m, radius = row.radius_relaxed_m := by
  rw [geometry_patched, EstablishmentModel.geometry, Prod.mk.injEq, Prod.mk.injEq, Prod.mk.injEq]
  simp only [getD_eq_iff]

/-- A body without a field of the geometry leaves it. -/
theorem geometry_patched_of_not_geo_changed (h : body.geo_changed = false) :
    (row.patched body).geometry = row.geometry := by
  rw [geometry_patched_eq_iff]
  simp only [UpdateEstablishmentBody.geo_changed, List.any_cons, List.any_nil, Bool.or_false, Bool.or_eq_false_iff,
    Option.isSome_eq_false_iff, Option.isNone_iff_eq_none] at h
  obtain ⟨hlat, hlon, hstrict, hrelaxed⟩ := h
  simp [hlat, hlon, hstrict, hrelaxed]

/-- A PATCH keeps the version in step with the geometry unless it repeats the stored one. -/
theorem versions_patched_iff : row.Versions (row.patched body) ↔ ¬ body.repeats_geometry row := by
  constructor
  · rintro h ⟨hgiven, hsame⟩
    have hversion := h.unchanged (geometry_patched_eq_iff.mpr hsame)
    rw [geometry_version_patched, if_pos hgiven] at hversion
    omega
  · intro h
    by_cases hgiven : body.geo_changed
    · refine ⟨fun _ => by rw [geometry_version_patched, if_pos hgiven], fun hsame => ?_⟩
      exact absurd ⟨hgiven, geometry_patched_eq_iff.mp hsame⟩ h
    · have hsame : (row.patched body).geometry = row.geometry :=
        geometry_patched_of_not_geo_changed (Bool.not_eq_true _ ▸ hgiven)
      exact ⟨fun hne => absurd hsame hne, fun _ => by rw [geometry_version_patched, if_neg hgiven]⟩

end patched

/-- The version of the geometry of an establishment, 0 before it is stored. -/
def Store.geometry_version (id : UUID) (s : Store F) : ℕ :=
  ((s.establishments.get id).map fun row => row.geometry_version).getD 0

def Store.geometry (id : UUID) (s : Store F) : Option (F × F × F × F) :=
  (s.establishments.get id).map fun row => row.geometry

variable [LinearOrder F] [NatCast F] {w : World F} {call : Call F} {init s t : Store F} {calls : List (Call F)}

/-- The request is a PATCH that repeats the stored geometry of its establishment. -/
def Call.repeats_geometry (call : Call F) (s : Store F) : Prop :=
  match call.request with
  | .update_establishment establishment_id body =>
    ∃ row, s.establishments.get establishment_id = some row ∧ body.repeats_geometry row
  | _ => False

/-- Over a run, each PATCH of a stored establishment keeps the version of its geometry in step with
it, the version never goes back, and two states have one version exactly when no request between
them has changed the geometry. -/
structure GeometryVersioned (w : World F) (init : Store F) (calls : List (Call F)) (s : Store F) : Prop where
  patch : ∀ x establishment_id body env y,
    Takes (Served w) init calls s x ⟨.update_establishment establishment_id body, env⟩ y →
      ∀ row, x.establishments.get establishment_id = some row →
        ∃ row', y.establishments.get establishment_id = some row' ∧ row.Versions row'
  history : ∀ before between after x y, calls = before ++ between ++ after →
    Run w init before x → Run w x between y → Run w y after s →
      ∀ id row row', x.establishments.get id = some row → y.establishments.get id = some row' →
        row.geometry_version ≤ row'.geometry_version ∧
        (row'.geometry_version = row.geometry_version ↔
          ∀ u call v, Takes (Served w) x between y u call v → v.geometry id = u.geometry id)

/-- A creation stores the first version of a geometry. -/
theorem Served.counted_created {cmd : CreateEstablishmentCommand F} {env : Env}
    (h : Served w s ⟨.create_establishment cmd, env⟩ t) :
    Execution.Counted (Store.geometry_version env.establishment_id) (Store.geometry env.establishment_id) s t := by
  have hnew : s.establishments.get env.establishment_id = none :=
    Table.get_eq_none_iff.mpr fun row hrow => Store.establishment_ne_of_not_mem (h.1 _ env.establishment_id_mem) hrow
  have hstored : t.establishments.get env.establishment_id =
      some (new_establishment_row (CreateEstablishment.establishment env cmd)).stored := h.stores_row rfl
  refine Or.inr ⟨?_, ?_⟩
  · simp [Store.geometry, hnew, hstored]
  · rw [Store.geometry_version, Store.geometry_version, hnew, hstored]
    rfl

/-- The row of a stored establishment after a PATCH. -/
theorem Served.get_patched {establishment_id : UUID} {body : UpdateEstablishmentBody F} {env : Env}
    (h : Served w s ⟨.update_establishment establishment_id body, env⟩ t) {row : EstablishmentModel F}
    (hrow : s.establishments.get establishment_id = some row) :
    t.establishments.get establishment_id = some (row.patched body) := by
  have hwritten : Call.establishment_row ⟨.update_establishment establishment_id body, env⟩ s =
      some (row.patched body) := by
    rw [Call.establishment_row_update, hrow]
    rfl
  have hkey : (row.patched body).id = establishment_id := Table.key_of_get hrow
  rw [← hkey]
  exact h.stores_row hwritten

omit [LinearOrder F] [NatCast F] in
/-- Rows with one version for each geometry count the changes of it. -/
theorem counted_of_versions {id : UUID} {row row' : EstablishmentModel F} (hrow : s.establishments.get id = some row)
    (hrow' : t.establishments.get id = some row') (h : row.Versions row') :
    Execution.Counted (Store.geometry_version id) (Store.geometry id) s t := by
  simp only [Execution.Counted, Store.geometry_version, Store.geometry, hrow, hrow', Option.map_some, Option.getD_some]
  by_cases hsame : row'.geometry = row.geometry
  · exact Or.inl ⟨congrArg some hsame, h.unchanged hsame⟩
  · exact Or.inr ⟨fun heq => hsame (Option.some.inj heq), h.changed hsame⟩

/-- A request that does not repeat a stored geometry keeps each version in step. -/
theorem Served.counted_geometry (h : Served w s call t) (hcall : ¬ call.repeats_geometry s) (id : UUID) :
    Execution.Counted (Store.geometry_version id) (Store.geometry id) s t := by
  cases hwritten : call.establishment_row s with
  | none =>
    have hsame := h.establishments_kept hwritten
    exact Or.inl ⟨by rw [Store.geometry, Store.geometry, hsame],
      by rw [Store.geometry_version, Store.geometry_version, hsame]⟩
  | some written =>
    by_cases hid : written.id = id
    · subst hid
      obtain ⟨request, env⟩ := call
      cases request with
      | create_establishment cmd =>
        cases hwritten
        exact h.counted_created
      | update_establishment establishment_id body =>
        rw [Call.establishment_row_update, Option.map_eq_some_iff] at hwritten
        obtain ⟨row, hrow, rfl⟩ := hwritten
        have hkey : (row.patched body).id = establishment_id := Table.key_of_get hrow
        rw [hkey]
        refine counted_of_versions hrow (h.get_patched hrow) (versions_patched_iff.mpr fun hrepeats => ?_)
        exact hcall ⟨row, hrow, hrepeats⟩
      | _ => cases hwritten
    · have hsame := h.get_establishment hwritten id
      rw [if_neg hid] at hsame
      exact Or.inl ⟨by rw [Store.geometry, Store.geometry, hsame],
        by rw [Store.geometry_version, Store.geometry_version, hsame]⟩

/-- In every run, the version of a geometry identifies it exactly when no PATCH repeats the stored
geometry of its establishment. -/
theorem geometry_versioned_iff :
    GeometryVersioned w init calls s ↔
      ∀ x call y, Takes (Served w) init calls s x call y → ¬ call.repeats_geometry x := by
  constructor
  · rintro h x ⟨request, env⟩ y htakes hrepeats
    cases request with
    | update_establishment establishment_id body =>
      obtain ⟨row, hrow, hbody⟩ := hrepeats
      obtain ⟨row', hrow', hversions⟩ := h.patch x establishment_id body env y htakes row hrow
      rw [htakes.taken.get_patched hrow] at hrow'
      cases hrow'
      exact versions_patched_iff.mp hversions hbody
    | _ => exact hrepeats
  · intro h
    refine ⟨fun x establishment_id body env y htakes row hrow => ?_, ?_⟩
    · refine ⟨_, htakes.taken.get_patched hrow, versions_patched_iff.mpr fun hrepeats => ?_⟩
      exact h _ _ _ htakes ⟨row, hrow, hrepeats⟩
    · rintro before between after x y rfl hbefore hbetween hafter id row row' hrow hrow'
      have hcounted : ∀ u call v, Takes (Served w) x between y u call v →
          Execution.Counted (Store.geometry_version id) (Store.geometry id) u v := by
        intro u call v htakes
        exact htakes.taken.counted_geometry (h u call v (htakes.within hbefore hafter)) id
      have hx : x.geometry_version id = row.geometry_version := by rw [Store.geometry_version, hrow]; rfl
      have hy : y.geometry_version id = row'.geometry_version := by rw [Store.geometry_version, hrow']; rfl
      rw [← hx, ← hy]
      exact ⟨hbetween.version_le hcounted, hbetween.version_eq_iff hcounted⟩

namespace pilot

/-- A PATCH that submits the stored latitude once more. -/
noncomputable def same_latitude : Call ℝ where
  request := .update_establishment ⟨"school"⟩ { center_lat := some 0 }
  env := surroundings "1" 10

noncomputable def reopened : Store ℝ :=
  { opened with establishments := ⟨[{ school with geometry_version := 2 }], List.pairwise_singleton _ _⟩ }

theorem patched_same_latitude : school.patched { center_lat := some 0 } = { school with geometry_version := 2 } := by
  simp [EstablishmentModel.patched, EstablishmentModel.assigned, EstablishmentModel.flush, apply_establishment_to_row,
    UpdateEstablishmentBody.apply_to, UpdateEstablishmentBody.geo_changed, establishment_to_domain, school,
    bound_column]

theorem served_same_latitude : Served world opened same_latitude reopened := by
  have hrow : opened.establishments.get ⟨"school"⟩ = some school := rfl
  have hrows : Table.Replaces opened.establishments school (school.patched { center_lat := some 0 })
      reopened.establishments := by
    refine ⟨List.mem_singleton.mpr rfl, rfl, ?_⟩
    rw [patched_same_latitude]
    rfl
  have houtcome : Outcome world same_latitude opened _ reopened := .update_establishment hrow hrows
  exact houtcome.served (show (surroundings "1" 10).Fresh opened by decide)

end pilot

/-- The latitude of the school is submitted as it is stored, and the geometry has a new version. -/
theorem same_geometry_versioned :
    Run pilot.world pilot.opened [pilot.same_latitude] pilot.reopened ∧
    pilot.reopened.geometry ⟨"school"⟩ = pilot.opened.geometry ⟨"school"⟩ ∧
    pilot.opened.geometry_version ⟨"school"⟩ = 1 ∧ pilot.reopened.geometry_version ⟨"school"⟩ = 2 ∧
    ¬ GeometryVersioned pilot.world pilot.opened [pilot.same_latitude] pilot.reopened := by
  have hrow : pilot.opened.establishments.get ⟨"school"⟩ = some pilot.school := rfl
  refine ⟨.single pilot.served_same_latitude, rfl, rfl, rfl, fun h => ?_⟩
  obtain ⟨row', hrow', hversions⟩ := h.patch _ _ _ _ _ (.last .refl pilot.served_same_latitude) _ hrow
  rw [pilot.served_same_latitude.get_patched hrow] at hrow'
  cases hrow'
  have hversion := hversions.unchanged (geometry_patched_eq_iff.mpr (by simp [pilot.school]))
  rw [pilot.patched_same_latitude] at hversion
  cases hversion

end sigis
