import Sigis.Domain.ClientTimeValidation
import Sigis.Missions.Windows

open guarded

namespace sigis

variable {now ws we : datetime}

end sigis
