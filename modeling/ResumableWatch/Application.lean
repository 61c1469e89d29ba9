import ResumableWatch.Handler
/-!
# The application

Starting and stopping everything in order, and the main task that does both.  Each part of the start
can fail: a failure of the API client or of the informer names the component, and the main task
answers it by a critical log line and an exit; any other failure goes through.  Stopping an
application that never started is allowed.

A signal requests one shutdown, which is a task of its own; the main task sees within a second that
the application no longer runs.
-/

namespace ResumableWatch

/-- The version of the application. -/
def Application.version : String := "0.3.0"

namespace Act

/-- The application as it is now. -/
def application : Act Application := .gets (·.application)

/-- Changes the application. -/
def changeApplication (f : Application → Application) : Act Unit := .update (·.changeApplication f)

/-- A log line of the application. -/
def logApplication (level : Log.Level) (event : String) (fields : List (String × Json)) :
    Act Unit :=
  log level applicationComponent event fields

/-! ### Starting -/

/-- The configuration: the given one, or the one that the environment describes. -/
def configuration : Act Configuration := do
  match (← application).configuration with
  | some c => return c
  | none =>
    match Configuration.load (← Fiber.state).surroundings.environment with
    | .error cause => Fiber.fail (.setting cause)
    | .ok c =>
      changeApplication fun app => { app with configuration := some c }
      return c

/-- Sets up the logging of the run and attaches what is watched to the lines of this task. -/
def setUpLogging (c : Configuration) : Act Unit :=
  .update fun w =>
    { w with logging := some (Log.setup c.log.level c.log.format) }.changeTasks
      (·.bindContext (.bound c.watch.kind c.watch.namespaceName))

/-- Fails if there is a failure. -/
def failIf : Option Failure → Act Unit
  | some failure => Fiber.fail failure
  | none => pure ()

/-- Looks for the configuration inside a cluster. -/
def configureInCluster : Act Unit := do
  record .inclusterConfiguration
  failIf (← Fiber.state).surroundings.inclusterFailure
  logApplication .info "k8s client configured from in-cluster service account" []

/-- Looks for the configuration of a user. -/
def configureFromUser : Act Unit := do
  record .userConfiguration
  whenAsked (← Fiber.state).surroundings.userDelay sleep
  failIf (← Fiber.state).surroundings.userFailure
  logApplication .info "k8s client configured from kubeconfig" []

/-- Looks for the configuration of a user when there is none inside a cluster. -/
def configureOtherwise : Failure → Act Unit
  | .unconfigured _ => configureFromUser
  | failure => Fiber.fail failure

/-- Runs a part of the start; an ordinary failure becomes one of the component. -/
def component {α : Type} (name : String) (m : Act α) : Act α :=
  m.recover fun failure =>
    Fiber.fail (if failure.isOrdinary then .component name failure else failure)

/-- Makes the API client. -/
def startClient : Act Unit :=
  component "k8s_client" do
    configureInCluster.recover configureOtherwise
    failIf (← Fiber.state).surroundings.clientFailure
    changeApplication fun app => { app with hasClient := true, hadClient := true }

/-- Starts the exporter of metrics unless the port is zero, and says whether it did. -/
def startExporter (port : Int) : Act Bool := do
  if port = 0 then return false
  else
    record (.metricsServer port)
    failIf (← Fiber.state).surroundings.exporterFailure
    return true

/-- Starts the exporter and logs that it was started, if it was. -/
def startMetrics (port : Int) : Act Unit := do
  if ← startExporter port then
    logApplication .info "metrics exporter started" [("port", .int port)]

/-- How the objects to be watched are listed. -/
def listing (watch : WatchSettings) : Except Failure (Kind × Kind.Listing) :=
  match Kind.find? watch.kind with
  | none => .error (.missingKey (some watch.kind))
  | some kind =>
    match Kind.listing watch.kind watch.namespaceName with
    | .error cause => .error (.kind cause)
    | .ok listing => .ok (kind, listing)

/-- A selector of a configuration; an empty one selects nothing. -/
def selectorOf (source : String) : Option String := if source.isEmpty then none else some source

/-- The query of a configuration. -/
def queryOf (watch : WatchSettings) : Query where
  labelSelector := selectorOf watch.labelSelector
  fieldSelector := selectorOf watch.fieldSelector
  timeoutSeconds := some watch.timeoutSeconds

/-- How the informer of a configuration reaches the server. -/
def endpointOf (client : Client) (watch : WatchSettings) (kind : Kind) (listing : Kind.Listing) :
    Endpoint where
  name := watch.kind
  decoder := some (client.decoder kind.model)
  operation := some (kind.api ++ "." ++ listing.operation)
  namespaceName := listing.namespaceName

/-- Makes the informer, with a cursor of its own. -/
def buildInformer (c : Configuration) : Act InformerId := do
  let (kind, listing) ← component "informer" (Fiber.ofExcept (listing c.watch))
  let w ← Fiber.state
  Fiber.update fun w => { w with cursors := w.cursors ++ [{}] }
  addInformer {
    transport := .http (endpointOf w.surroundings.client c.watch kind listing)
    query := queryOf c.watch
    name := c.watch.kind
    backoff := c.recovery.backoff
    cursor := w.cursors.length }

/-- Makes a supervisor for the informer and starts it. -/
def startWatching (c : Configuration) (informer : InformerId) : Act Unit := do
  let supervisor ← addSupervisor {
    informer
    handler := .logging
    retryDelay := c.recovery.retryDelay
    statusInterval := c.recovery.statusInterval }
  changeApplication fun app => { app with supervisor := some supervisor }
  startSupervisor supervisor

/-- Starts everything in order. -/
def startApplication : Act Unit := do
  let c ← configuration
  setUpLogging c
  logApplication .info "kubeinformer starting" [("version", .text Application.version)]
  startClient
  startMetrics c.metricsPort
  let informer ← buildInformer c
  changeApplication fun app => { app with informer := some informer }
  startWatching c informer
  changeApplication fun app => { app with running := true }
  logApplication .info "kubeinformer started"
    [("kind", .text c.watch.kind), ("namespace", .text c.watch.namespaceName)]

/-! ### Stopping -/

/-- Stops the supervisor if there is one. -/
def stopWatching : Act Unit := do
  match (← application).supervisor with
  | some supervisor =>
    stopSupervisor supervisor
    changeApplication fun app => { app with supervisor := none }
  | none => pure ()

/-- Asks the API client to close, which may take some time. -/
def askToClose : Act Unit := do
  record .clientClose
  whenAsked (← Fiber.state).surroundings.closeDelay sleep
  failIf (← Fiber.state).surroundings.closeFailure

/-- Closes the API client if it is there; an ordinary failure to do so is only logged. -/
def closeClient : Act Unit := do
  if (← application).hasClient then
    askToClose.recover fun failure =>
      if failure.isOrdinary then
        logApplication .debug "k8s client close raised (non-fatal)"
          [("error", .text failure.message)]
      else Fiber.fail failure
    changeApplication fun app => { app with hasClient := false }

/-- Stops the supervisor, then closes the API client. -/
def stopApplication : Act Unit := do
  changeApplication fun app => { app with running := false }
  stopWatching
  closeClient
  logApplication .info "kubeinformer stopped" []

/-- Stops the application if it runs. -/
def stopIfRunning : Act Unit := do
  if (← application).running then stopApplication

/-! ### The main task -/

/-- Requests a shutdown, unless one was requested. -/
def requestShutdown : Act Unit := do
  if (← application).shutdownRequested then return ()
  else
    changeApplication fun app => { app with shutdownRequested := true }
    let t ← spawn .shutdown
    changeApplication fun app => { app with shutdown := some t }

/-- Ends the main task after a failure; one of a component ends it with an exit. -/
def giveUp (failure : Failure) : Act Unit :=
  Fiber.ensure stopIfRunning do
    match failure with
    | .component name cause =>
      logApplication .critical "fatal startup error"
        [("component", .text name), ("error", .text cause.message)]
      stopApplication
      Fiber.fail (.exit 1)
    | _ => Fiber.fail failure

/-- Runs a part of the main task and says whether the task goes on. -/
def proceed (m : Act Unit) : Act Bool := do
  match ← m.attempt with
  | .ok () => return true
  | .error failure =>
    giveUp failure
    return false

/-- The beginning of the main task. -/
def launch : Act Bool := proceed startApplication

/-- One look of the main task at the application. -/
def attend : Act Bool := do
  if (← application).running then proceed (sleep (.ofInt 1)) else return false

end Act

end ResumableWatch
