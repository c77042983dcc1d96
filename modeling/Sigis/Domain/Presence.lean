import Sigis.Domain.Shared

namespace sigis

structure PresenceProof (F : Type) where
  id : UUID
  site_visit_id : UUID
  actor_user_id : UUID
  recorded_at : datetime
  latitude : F
  longitude : F
  geofence_status : GeofenceStatus
deriving DecidableEq, Repr

structure CoPresenceEvent where
  id : UUID
  site_visit_id : UUID
  validated_at : datetime
deriving DecidableEq, Repr

end sigis
