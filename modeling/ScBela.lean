import ScBela.Xenomai.Cobalt
import ScBela.Xenomai.Lock
import ScBela.Xenomai.RetryPolicy
import ScBela.Xenomai.Lifecycle
import ScBela.Xenomai.Posix
import ScBela.Xenomai.Threads
import ScBela.Xenomai.SoloCall
import ScBela.Xenomai.Refinement
import ScBela.Xenomai.Contract
import ScBela.Plugins.Board
import ScBela.Plugins.Analog
import ScBela.Plugins.AnalogRates
import ScBela.Plugins.AnalogSafety
import ScBela.Plugins.Digital
import ScBela.Plugins.DigitalRates
import ScBela.Plugins.DigitalSafety
import ScBela.Plugins.DigitalOutHold
import ScBela.Driver.Callback
import ScBela.Driver.Setup
import ScBela.Driver.Scheduler
import ScBela.Driver.Clock
