import Sigis.Api.Summaries
import Sigis.Establishments.Stored

open guarded paging relational transactional transition

namespace sigis

variable {F : Type}

/-- Whatever the territory, the name and the plan: the summary counts as many establishments of a
type as all the pages of the list report it for, and as many as a list of this type has. -/
def Store.TypesCounted (s : Store F) : Prop :=
  ∀ (plan : Plan (EstablishmentModel.order_key (F := F))) (limit : Nat), 1 ≤ limit →
    ∀ (territory_code name_q : Option String) (kind : String),
      let filter : EstablishmentFilter := { territory_code := territory_code, name_q := name_q }
      let counted := ((establishments_summary s territory_code name_q).by_establishment_type.get kind).getD 0
      let listed := gather (fun _ skip => EstablishmentRepositoryImpl.list_page plan s skip limit filter) limit
      counted = (listed.map fun est => est.establishment_type).count kind ∧
        ∀ offset, counted = (EstablishmentRepositoryImpl.list_page plan s offset limit
          { filter with establishment_type := some kind }).2

/-- Every stored establishment has a type. -/
def Store.TypesGiven (s : Store F) : Prop := ∀ row ∈ s.establishments.rows, row.establishment_type ≠ ""

namespace EstablishmentRepositoryImpl

variable {s : Store F} {territory_code name_q : Option String}

/-- The rows that are counted are the rows that are listed without a condition on the type. -/
theorem count_by_establishment_type_eq :
    count_by_establishment_type s territory_code name_q =
      count_by ((establishment_select_filtered s { territory_code := territory_code, name_q := name_q }).map
        fun est => est.establishment_type) := by
  simp [count_by_establishment_type, establishment_select_filtered, unless_none]

/-- A condition on the type selects among the establishments selected without it. -/
theorem establishment_select_type (kind : Option String) :
    establishment_select_filtered s
        { territory_code := territory_code, name_q := name_q, establishment_type := kind } =
      (establishment_select_filtered s { territory_code := territory_code, name_q := name_q }).filter fun est =>
        unless_none kind fun kind => est.establishment_type = kind := by
  unfold establishment_select_filtered
  rw [List.filter_filter]
  refine List.filter_congr fun est _ => ?_
  simp [unless_none, Bool.and_comm]

theorem establishment_select_all : establishment_select_filtered s {} = s.establishments.rows := by
  simp [establishment_select_filtered, unless_none, unless_empty]

theorem agree_count_by_establishment_type (plan : Plan (EstablishmentModel.order_key (F := F))) (offset limit : Nat) :
    (count_by_establishment_type s territory_code name_q).Agree fun kind => (list_page plan s offset limit
      { territory_code := territory_code, name_q := name_q, establishment_type := kind }).2 := by
  have hlisted : (fun kind => (list_page plan s offset limit
      { territory_code := territory_code, name_q := name_q, establishment_type := kind }).2) = _ :=
    funext fun kind => congrArg List.length (establishment_select_type kind)
  rw [hlisted, count_by_establishment_type_eq]
  exact agree_count_by _ fun est : EstablishmentModel F => est.establishment_type

/-- The types all the pages report are those the mapper makes of the selected rows. -/
theorem listed_types_perm (plan : Plan (EstablishmentModel.order_key (F := F))) {limit : Nat} (hlimit : 1 ≤ limit)
    (filter : EstablishmentFilter) :
    ((gather (fun _ skip => list_page plan s skip limit filter) limit).map fun est => est.establishment_type).Perm
      ((establishment_select_filtered s filter).map fun est => (establishment_to_domain est).establishment_type) := by
  have hgather : gather (fun _ skip => list_page plan s skip limit filter) limit =
      (plan.order_by (establishment_select_filtered s filter)).map establishment_to_domain :=
    gather_same plan _ establishment_to_domain hlimit
  rw [hgather, List.map_map]
  exact (plan.perm _).map _

end EstablishmentRepositoryImpl

open EstablishmentRepositoryImpl

/-- The mapper reports a type for every row. -/
theorem establishment_type_to_domain_ne (row : EstablishmentModel F) :
    (establishment_to_domain row).establishment_type ≠ "" := by
  change (if row.establishment_type = "" then "other" else row.establishment_type) ≠ ""
  split
  · decide
  · next h => exact h

/-- The mapper reports the type of a row that has one. -/
theorem establishment_type_to_domain {row : EstablishmentModel F} (h : row.establishment_type ≠ "") :
    (establishment_to_domain row).establishment_type = row.establishment_type := if_neg h

/-- Types are counted as they are shown exactly when every establishment has one. -/
theorem Store.counted_iff_given (s : Store F) : s.TypesCounted ↔ s.TypesGiven := by
  constructor
  · intro h row hrow hempty
    let one : Plan (EstablishmentModel.order_key (F := F)) := .by_insertion _
    obtain ⟨hcount, -⟩ := h one 1 le_rfl none none ""
    have hcounted : ((count_by_establishment_type s).get "").getD 0 =
        (s.establishments.rows.map fun est => est.establishment_type).count "" := by
      rw [count_by_establishment_type_eq, get_count_by_getD, establishment_select_all]
    have hlisted := (listed_types_perm (s := s) one le_rfl {}).count_eq ""
    rw [establishment_select_all] at hlisted
    have hzero :
        (s.establishments.rows.map fun est => (establishment_to_domain est).establishment_type).count "" = 0 := by
      refine List.count_eq_zero_of_not_mem fun hmem => ?_
      obtain ⟨est, -, hest⟩ := List.mem_map.mp hmem
      exact establishment_type_to_domain_ne est hest
    have hnone := hcounted.symm.trans (hcount.trans (hlisted.trans hzero))
    exact List.count_eq_zero.mp hnone (List.mem_map.mpr ⟨row, hrow, hempty⟩)
  · intro h plan limit hlimit territory_code name_q kind
    refine ⟨?_, fun offset => (agree_count_by_establishment_type plan offset limit).each kind⟩
    have hlisted := (listed_types_perm (s := s) plan hlimit
      { territory_code := territory_code, name_q := name_q }).count_eq kind
    refine Eq.trans ?_ hlisted.symm
    change ((count_by_establishment_type s territory_code name_q).get kind).getD 0 = _
    rw [count_by_establishment_type_eq, get_count_by_getD]
    congr 1
    refine List.map_congr_left fun est hest => ?_
    exact (establishment_type_to_domain (h est (List.mem_of_mem_filter hest))).symm

variable [LinearOrder F] [NatCast F] {w : World F} {call : Call F} {init s t : Store F} {calls : List (Call F)}

/-- The request is a creation with an empty type, or a PATCH of a stored establishment with one. -/
def Call.blanks_type (call : Call F) (s : Store F) : Prop :=
  match call.request with
  | .create_establishment cmd => cmd.establishment_type = ""
  | .update_establishment establishment_id body =>
    body.establishment_type = some "" ∧ ∃ row, s.establishments.get establishment_id = some row
  | _ => False

omit [NatCast F] in
/-- The row a request leaves has an empty type exactly when the request gives it one. -/
theorem Call.blanks_type_iff :
    call.blanks_type s ↔ ∃ row, call.establishment_row s = some row ∧ row.establishment_type = "" := by
  obtain ⟨request, env⟩ := call
  cases request with
  | create_establishment cmd =>
    simp [Call.blanks_type, Call.establishment_row, EstablishmentModel.stored, new_establishment_row,
      CreateEstablishment.establishment]
  | update_establishment establishment_id body =>
    have htype : ∀ row : EstablishmentModel F,
        (row.assigned (body.apply_to (establishment_to_domain row))).establishment_type = "" ↔
          body.establishment_type = some "" := by
      intro row
      have hne := establishment_type_to_domain_ne row
      cases hbody : body.establishment_type <;>
        simp [EstablishmentModel.assigned, EstablishmentModel.flush, apply_establishment_to_row,
          UpdateEstablishmentBody.apply_to, hbody, hne]
    simp only [Call.blanks_type, Call.establishment_row_update, Option.map_eq_some_iff]
    constructor
    · rintro ⟨hbody, row, hrow⟩
      exact ⟨_, ⟨row, hrow, rfl⟩, (htype row).mpr hbody⟩
    · rintro ⟨_, ⟨row, hrow, rfl⟩, hempty⟩
      exact ⟨(htype row).mp hempty, row, hrow⟩
  | _ => simp [Call.blanks_type, Call.establishment_row]

/-- A request that gives no empty type keeps every establishment with a type. -/
theorem Served.types_given (h : Served w s call t) (hgiven : s.TypesGiven) (hcall : ¬ call.blanks_type s) :
    t.TypesGiven := by
  intro row hrow hempty
  rcases h.mem_establishments hrow with hwritten | hstored
  · exact hcall (Call.blanks_type_iff.mpr ⟨row, hwritten, hempty⟩)
  · exact hgiven row hstored hempty

/-- A request that gives an empty type stores it. -/
theorem Served.not_types_given (h : Served w s call t) (hcall : call.blanks_type s) : ¬ t.TypesGiven := by
  intro hgiven
  obtain ⟨row, hrow, hempty⟩ := Call.blanks_type_iff.mp hcall
  exact hgiven row (Table.mem_of_get (h.stores_row hrow)) hempty

/-- In every run from a store where every establishment has a type, types are counted as they are
shown after each request exactly when no creation, and no PATCH of a stored establishment, gives an
empty type. -/
theorem types_counted_iff (hinit : init.TypesGiven) :
    (∀ x call y, Takes (Served w) init calls s x call y → y.TypesCounted) ↔
      ∀ x call y, Takes (Served w) init calls s x call y → ¬ call.blanks_type x := by
  constructor
  · intro h x call y htakes hcall
    exact htakes.taken.not_types_given hcall (y.counted_iff_given.mp (h x call y htakes))
  · intro h x call y htakes
    have hgiven : x.TypesGiven := Execution.invariant_before Store.TypesGiven htakes hinit
      fun x' call' y' htakes' hgiven' => htakes'.taken.types_given hgiven' (h x' call' y' htakes')
    exact y.counted_iff_given.mpr (htakes.taken.types_given hgiven (h x call y htakes))

namespace pilot

/-- A second building, created with this type. -/
noncomputable def annexe (establishment_type : String) : CreateEstablishmentCommand ℝ where
  name := "Annexe"
  center_lat := 0
  center_lon := 0
  radius_strict_m := ((100 : ℕ) : ℝ)
  radius_relaxed_m := ((200 : ℕ) : ℝ)
  establishment_type := establishment_type

noncomputable def annexe_row (establishment_type : String) : EstablishmentModel ℝ where
  id := ⟨"school-2"⟩
  name := "Annexe"
  center_lat := 0
  center_lon := 0
  radius_strict_m := ((100 : ℕ) : ℝ)
  radius_relaxed_m := ((200 : ℕ) : ℝ)
  geometry_version := 1
  establishment_type := establishment_type

theorem apart_annexe (establishment_type : String) :
    [school, annexe_row establishment_type].Pairwise fun a b => ¬ clash a b := by
  refine List.pairwise_pair.mpr ?_
  rintro (hkey | hconflict)
  · exact absurd hkey (show (⟨"school"⟩ : UUID) ≠ ⟨"school-2"⟩ by decide)
  · cases hconflict

/-- The pilot site with its second building. -/
noncomputable def annexed (establishment_type : String) : Store ℝ :=
  { opened with establishments := ⟨[school, annexe_row establishment_type], apart_annexe establishment_type⟩ }

theorem served_annexe (establishment_type : String) :
    Served world opened ⟨.create_establishment (annexe establishment_type), surroundings "2" 0⟩
      (annexed establishment_type) := by
  refine (Outcome.create_establishment ?_).served (show (surroundings "2" 0).Fresh opened by decide)
  refine Table.insert_eq_some_iff.mpr ⟨?_, rfl⟩
  intro a ha
  rw [show a = school from List.mem_singleton.mp ha]
  exact List.pairwise_pair.mp (apart_annexe establishment_type)

end pilot

/-- The building without type is counted under an empty one, and listed among the others. -/
theorem empty_type_counted_apart :
    Run pilot.world pilot.opened [⟨.create_establishment (pilot.annexe ""), pilot.surroundings "2" 0⟩]
      (pilot.annexed "") ∧
    (establishments_summary (pilot.annexed "")).by_establishment_type = [("other", 1), ("", 1)] ∧
    ((gather (fun _ skip => list_page (.by_insertion _) (pilot.annexed "") skip 1 {}) 1).map
      fun est => est.establishment_type).Perm ["other", "other"] ∧
    (list_page (.by_insertion _) (pilot.annexed "") 0 1 { establishment_type := some "other" }).2 = 1 ∧
    ¬ (pilot.annexed "").TypesCounted := by
  refine ⟨.single (pilot.served_annexe ""), by decide, listed_types_perm _ le_rfl {}, by decide, fun hcounted => ?_⟩
  exact ((pilot.annexed "").counted_iff_given.mp hcounted) (pilot.annexe_row "") (by simp [pilot.annexed]) rfl

/-- A second building of another type is counted beside the school. -/
theorem pilot_types_counted : (pilot.annexed "primary").TypesCounted := by
  have hgiven : pilot.opened.TypesGiven := by
    intro row hrow
    rw [show row = pilot.school from List.mem_singleton.mp hrow]
    decide
  refine (types_counted_iff hgiven).mpr ?_ _ _ _ (.last .refl (pilot.served_annexe "primary"))
  intro x call y htakes
  rw [List.mem_singleton.mp htakes.mem, Call.blanks_type_iff]
  rintro ⟨row, hrow, hempty⟩
  obtain rfl := Option.some.inj hrow
  exact absurd hempty (show "primary" ≠ "" by decide)

end sigis
