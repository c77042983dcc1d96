import Sigis.Accounts.Bootstrap
import Sigis.Accounts.Enumeration
import Sigis.Accounts.Profiles
import Sigis.Accounts.ResetLinks
import Sigis.Accounts.RoleDowngrade
import Sigis.Api.Pages
import Sigis.Api.RateLimit
import Sigis.Concurrency.GeometryVersions
import Sigis.Concurrency.HostTokens
import Sigis.Concurrency.Overlapping
import Sigis.Concurrency.PasswordReset
import Sigis.Domain.AnomalyDetection
import Sigis.Domain.NumberingPlan
import Sigis.Establishments.Types
import Sigis.ExceptionRequests.Interleavings
import Sigis.Idempotency.Authorisation
import Sigis.Missions.Chains
import Sigis.Missions.WindowTests
import Sigis.Mobile.Devices
import Sigis.Mobile.Forks
import Sigis.Persistence.UnitOfWork
import Sigis.Platform.Answers
import Sigis.Platform.MobileSync
import Sigis.Platform.Sessions
import Sigis.Telemetry.Statistics
import Sigis.Visits.DeadEnds
import Sigis.Visits.HostDistance
import Sigis.Visits.SmsCodes
