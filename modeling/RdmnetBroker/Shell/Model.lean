import RdmnetBroker.Config.Model
import RdmnetBroker.Library.Runs

/-! # The broker shell as a system of steps

`BrokerShell` with the thread that runs `Init`, `Run` and `Deinit`, and the
calls that other threads make. A step of the main thread is one critical
section or one call out of the shell; between two steps any other thread may
call `RequestRestart`, `HandleScopeChanged` or `AsyncShutdown`, the clock may
advance, and the configuration file may be written.
-/

namespace RdmnetBroker

open Library

set_option autoImplicit false

inductive LoadSite
  | init | restart
  deriving DecidableEq, Repr

/-- Inside `LoadBrokerConfig`: before `SetDefaults`, before the file is opened and
read, and with its contents at hand. -/
inductive LoadStage
  | setDefaults
  | getConfFile
  | read (file : ConfFile)
  deriving DecidableEq

inductive Pc
  | openLogFile
  | logStartup
  | load (site : LoadSite) (stage : LoadStage)
  | setLogMask
  | initReturned
  | rdmnetInit
  | loopHead
  | startup
  | shutdownCheck
  | timeToRestart
  | restartShutdown
  | applySettings
  | sleep
  | finalShutdown
  | rdmnetDeinit
  | runReturned (ok : Bool)
  | deinitReturned
  | escaped (site : LoadSite)
  deriving DecidableEq

inductive Event
  | openLogFile (ok : Bool)
  | logStartup (ok : Bool)
  | loadBegin (site : LoadSite)
  | confFileRead (site : LoadSite) (file : ConfFile)
  | loadReturn (site : LoadSite) (config : BrokerConfig)
  | loadThrow (site : LoadSite) (e : JsonException)
  | initReturn
  | runCall
  | rdmnetInit (ok : Bool)
  | startupSkipped
  | startupDisabled
  | startup (settings : Settings) (logMask : Int)
  | startupReturn (ok : Bool)
  | shutdownCheck (requested : Bool)
  | timeToRestart (result : Bool)
  | shutdown
  | noShutdown
  | applySettings (applied : Option Bytes) (settings : Settings)
  | sleep
  | rdmnetDeinit
  | deinit
  | requestRestart (cooldownMs : BitVec 32)
  | handleScopeChanged (scope : Bytes)
  | asyncShutdown
  | tick (ms : BitVec 32)
  | writeConf (file : ConfFile)

/-- The members of `BrokerShell` and the local `startup_broker` of `Run`, with the
world around them: the tick, the configuration file, and whether the library's
broker is started. -/
structure Shell where
  config : BrokerConfig
  messages : List LogMessage
  logMask : Int
  readyToRun : Bool
  restartTimer : Timer
  restartRequested : Bool
  shutdownRequested : Bool
  newScope : Bytes
  startupBroker : Bool
  pc : Pc
  logFilePath : Bytes
  now : BitVec 32
  confFile : ConfFile
  brokerStarted : Bool

/-- A step of the main thread, with the outcome and the error text of the call that
it makes, if any, or a step of the world. -/
inductive Act
  | main (ok : Bool) (reason : Bytes)
  | requestRestart (cooldownMs : BitVec 32)
  | handleScopeChanged (scope : Bytes)
  | asyncShutdown
  | tick (ms : BitVec 32)
  | writeConf (file : ConfFile)

namespace Shell

def log (s : Shell) (priority : LogPriority) (format : String) (args : List LogArg) : Shell :=
  { s with messages := s.messages ++ [⟨priority, format, args⟩] }

/-- A shorter cooldown does not cancel out the remaining one. -/
def restartTimerAfter (s : Shell) (cooldownMs : BitVec 32) : Timer :=
  if s.restartTimer.getRemaining s.now < cooldownMs then Timer.start s.now cooldownMs
  else s.restartTimer

def lockedRequestRestart (s : Shell) (cooldownMs : BitVec 32) : Shell :=
  { s with restartRequested := true, restartTimer := s.restartTimerAfter cooldownMs }

def requestRestart (s : Shell) (cooldownMs : BitVec 32) : Shell := s.lockedRequestRestart cooldownMs

def handleScopeChanged (s : Shell) (scope : Bytes) : Shell :=
  { s with newScope := scope }.lockedRequestRestart 0

def asyncShutdown (s : Shell) : Shell :=
  { s.log .info "Shutdown requested, Broker shutting down..." [] with shutdownRequested := true }

def timeToRestartBroker (s : Shell) : Bool × Shell :=
  if s.restartRequested && s.restartTimer.isExpired s.now then
    (true, { s with restartRequested := false })
  else (false, s)

def applySettingsChanges (s : Shell) : Option Bytes × Shell :=
  if s.newScope.isEmpty then (none, { s with logMask := s.config.logMask })
  else (some s.newScope,
    { s with
      logMask := s.config.logMask
      config := Field.scope.set s.newScope s.config
      newScope := [] })

def afterLoad : LoadSite → Pc
  | .init => .setLogMask
  | .restart => .applySettings

/-- A part of `LoadBrokerConfig`; an exception leaves `Init` or `Run`. -/
def stepLoad (s : Shell) (site : LoadSite) (part : ConfigM Unit) (event : BrokerConfig → Event)
    (next : Pc) : Event × Shell :=
  match part ⟨s.config, s.messages⟩ with
  | .ok _ t => (event t.config, { s with config := t.config, messages := t.messages, pc := next })
  | .error e t =>
    (.loadThrow site e, { s with config := t.config, messages := t.messages, pc := .escaped site })

def stepShutdown (s : Shell) (next : Pc) : Event × Shell :=
  if s.config.enableBroker then (.shutdown, { s with brokerStarted := false, pc := next })
  else (.noShutdown, { s with pc := next })

/-- The startup phase at the head of the loop. A failed refresh of the network
interfaces is logged and ignored. -/
def stepLoopHead (s : Shell) (refreshed : Bool) : Event × Shell :=
  if s.startupBroker then
    if s.config.enableBroker then
      (.startup s.config.settings s.logMask,
        { (if refreshed then s else
            s.log .err "Error refreshing network interfaces - broker may not work correctly." []) with
          startupBroker := false
          pc := .startup })
    else
      (.startupDisabled,
        { s.log .info "Running with broker functionality disabled." [] with
          startupBroker := false
          pc := .shutdownCheck })
  else (.startupSkipped, { s with pc := .shutdownCheck })

def stepStartup (s : Shell) (ok : Bool) (reason : Bytes) : Event × Shell :=
  if ok then (.startupReturn true, { s with brokerStarted := true, pc := .shutdownCheck })
  else
    (.startupReturn false,
      { s.log .notice "Broker startup failed (%s), running with broker functionality disabled."
          [.str reason] with
        config := Field.enableBroker.set false s.config
        pc := .shutdownCheck })

def stepTimeToRestart (s : Shell) : Event × Shell :=
  match s.timeToRestartBroker with
  | (true, t) =>
    (.timeToRestart true,
      { t.log .info "Restart requested, restarting broker and applying changes..." [] with
        pc := .restartShutdown })
  | (false, t) => (.timeToRestart false, { t with pc := .sleep })

def stepApply (s : Shell) : Event × Shell :=
  match s.applySettingsChanges with
  | (applied, t) =>
    (.applySettings applied t.config.settings, { t with startupBroker := true, pc := .sleep })

def stepMain (L : Libraries) (s : Shell) (ok : Bool) (reason : Bytes) : Option (Event × Shell) :=
  match s.pc with
  | .openLogFile =>
    if ok then some (.openLogFile true, { s with pc := .logStartup })
    else some (.openLogFile false,
      { s.log .crit "FATAL: Error opening log file for writing at path \"%s\"." [.str s.logFilePath] with
        pc := .initReturned })
  | .logStartup =>
    if ok then some (.logStartup true, { s with pc := .load .init .setDefaults })
    else some (.logStartup false, { s with pc := .initReturned })
  | .load site .setDefaults =>
    some (s.stepLoad site (setDefaults L) (fun _ => .loadBegin site) (.load site .getConfFile))
  | .load site .getConfFile =>
    some (.confFileRead site s.confFile, { s with pc := .load site (.read s.confFile) })
  | .load site (.read file) =>
    some (s.stepLoad site (loadFrom L file) (.loadReturn site) (afterLoad site))
  | .setLogMask =>
    some (.initReturn,
      { s with logMask := s.config.logMask, readyToRun := true, pc := .initReturned })
  | .initReturned =>
    if s.readyToRun then some (.runCall, { s with pc := .rdmnetInit })
    else some (.runCall, { s with pc := .runReturned false })
  | .rdmnetInit =>
    if ok then some (.rdmnetInit true, { s with startupBroker := true, pc := .loopHead })
    else some (.rdmnetInit false, { s with pc := .runReturned false })
  | .loopHead => some (s.stepLoopHead ok)
  | .startup => some (s.stepStartup ok reason)
  | .shutdownCheck =>
    if s.shutdownRequested then some (.shutdownCheck true, { s with pc := .finalShutdown })
    else some (.shutdownCheck false, { s with pc := .timeToRestart })
  | .timeToRestart => some s.stepTimeToRestart
  | .restartShutdown => some (s.stepShutdown (.load .restart .setDefaults))
  | .applySettings => some s.stepApply
  | .sleep => some (.sleep, { s with pc := .loopHead })
  | .finalShutdown => some (s.stepShutdown .rdmnetDeinit)
  | .rdmnetDeinit => some (.rdmnetDeinit, { s with pc := .runReturned true })
  | .runReturned _ => some (.deinit, { s with pc := .deinitReturned })
  | .deinitReturned => none
  | .escaped _ => none

def step (L : Libraries) (s : Shell) : Act → Option (Event × Shell)
  | .main ok reason => s.stepMain L ok reason
  | .requestRestart cooldownMs => some (.requestRestart cooldownMs, s.requestRestart cooldownMs)
  | .handleScopeChanged scope => some (.handleScopeChanged scope, s.handleScopeChanged scope)
  | .asyncShutdown => some (.asyncShutdown, s.asyncShutdown)
  | .tick ms => some (.tick ms, { s with now := s.now + ms })
  | .writeConf file => some (.writeConf file, { s with confFile := file })

/-- A newly constructed shell: the configuration has its default CID and nothing
else that is known. -/
structure Constructed (defaultCid : Uuid) (s : Shell) : Prop where
  defaultCid_eq : s.config.defaultCid = defaultCid
  readyToRun_eq : s.readyToRun = false
  interval_eq : s.restartTimer.interval = 0
  restartRequested_eq : s.restartRequested = false
  shutdownRequested_eq : s.shutdownRequested = false
  newScope_eq : s.newScope = []
  pc_eq : s.pc = .openLogFile
  brokerStarted_eq : s.brokerStarted = false

end Shell

def brokerShell (L : Libraries) (defaultCid : Uuid) : System Shell Event where
  initial := Shell.Constructed defaultCid
  next s e s' := ∃ a, s.step L a = some (e, s')

end RdmnetBroker
