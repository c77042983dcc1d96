import Sigis.Domain.Shared

namespace sigis

structure Establishment (F : Type) where
  id : UUID
  name : String
  center_lat : F
  center_lon : F
  radius_strict_m : F
  radius_relaxed_m : F
  geometry_version : Nat
  minesec_code : Option String := none
  establishment_type : String := "other"
  contact_email : Option String := none
  contact_phone : Option String := none
  territory_code : Option String := none
  parent_establishment_id : Option UUID := none
  designated_host_user_id : Option UUID := none
  geometry_validated_at : Option datetime := none
  geometry_validated_by_user_id : Option UUID := none
deriving DecidableEq, Repr

end sigis
