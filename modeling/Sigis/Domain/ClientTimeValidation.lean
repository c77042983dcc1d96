import Sigis.Domain.Shared

open guarded

namespace sigis

/-! `domain/shared/client_time_validation.py`. -/

variable {ct ws we : datetime} {before after : Int} {u : Unit}

end sigis
