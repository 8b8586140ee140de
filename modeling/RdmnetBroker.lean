import RdmnetBroker.Config.Contract
import RdmnetBroker.Config.Grammar
import RdmnetBroker.Config.Isolation
import RdmnetBroker.Config.Order
import RdmnetBroker.Config.Report
import RdmnetBroker.Config.Rereads
import RdmnetBroker.Config.Trailing
import RdmnetBroker.Config.Unknown
import RdmnetBroker.Config.WellFormed
import RdmnetBroker.Shell.Progress
import RdmnetBroker.Shell.Scope
import RdmnetBroker.Shell.WellFormed
import RdmnetBroker.Windows.Network
import RdmnetBroker.Windows.Refinement
import RdmnetBroker.Windows.Watcher
import RdmnetBroker.Windows.CheckPoints
import RdmnetBroker.Mac.Network
import RdmnetBroker.Mac.Shutdown
import RdmnetBroker.Logs.History
import RdmnetBroker.Logs.Opening
