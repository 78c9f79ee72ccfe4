import Fuelmint.Accounting
import Fuelmint.AllOrNothing
import Fuelmint.BlockLog
import Fuelmint.CrashReplay
import Fuelmint.Deployment
import Fuelmint.ExecutionOrder
import Fuelmint.FuelmintMain
import Fuelmint.HeightConversions
import Fuelmint.HttpSubmissions
import Fuelmint.Lifecycle
import Fuelmint.Progress
import Fuelmint.Responses
import Fuelmint.RollkitMain
