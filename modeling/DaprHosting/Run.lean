import DaprHosting.CommandLine.Commands
import DaprHosting.Failure
import DaprHosting.Installation
import DaprHosting.Json.Printer
import DaprHosting.Layer.Shown
import DaprHosting.ResourceManager
import DaprHosting.Upgrade

/-!
# Running a command

A run ends with a document on standard output or with a failure, never with both and never with
neither. Until logging is set up a failure is told in plain words; from then on it is one more
event. The first event of every run shows the configuration that it goes by.
-/

namespace DaprHosting

open CommandLine (Config Command)

/-! ## 1. Reports -/

/-- What a run leaves. There is no logger when the run failed before logging was set up. -/
structure Report where
  result : Except Failure Json
  logger : Option Log.Logger
  log : List Log.Event

namespace Report

/-- The exit code: zero, or that of the failure. -/
def exitCode (r : Report) : Nat :=
  match r.result with
  | .ok _ => 0
  | .error f => f.exitCode.code

/-- What is written to standard output. -/
def output (r : Report) : String :=
  match r.result with
  | .ok j => j.pretty ++ "\n"
  | .error _ => ""

/-- A failure as an event. -/
def failureEvent (w : Wording) (f : Failure) : Log.Event :=
  ⟨.error, f.message w, [("exit_code", .number f.exitCode.code)]⟩

/-- The failure that is told in plain words. -/
def plainFailure? (r : Report) : Option Failure :=
  match r.logger, r.result with
  | none, .error f => some f
  | _, _ => none

/-- These words. -/
def plainLine? (w : Wording) (r : Report) : Option String := r.plainFailure?.map (Failure.line w)

/-- The events that the logger lets through, a failure last. -/
def events (w : Wording) (r : Report) : List Log.Event :=
  match r.logger with
  | none => []
  | some logger =>
    let last := match r.result with
      | .ok _ => []
      | .error f => [failureEvent w f]
    (r.log ++ last).filter logger.admits

/-- The report of an action that ran under a logger. -/
def ofOutcome {σ α : Type} (logger : Log.Logger) (write : α → Json) (o : Outcome σ Failure α) :
    Report where
  result := o.result.map write
  logger := some logger
  log := o.log

end Report

/-! ## 2. The commands -/

/-- The installed extension in a file. -/
def readExtension (files : Files) (path : String) : Except Failure Extension :=
  match files path with
  | .error e => .error (.unreadable path e.message)
  | .ok text =>
    match (Json.read? text).bind Extension.ofJson? with
    | some x => .ok x
    | none => .error (.document text)

/-- Show the configuration. -/
def announce {σ ε : Type} (config : Log.Shown) : Action σ ε Unit :=
  Action.debug ("effective config: " ++ config.pretty)

/-- Build what is to be installed. -/
def runInstall {σ : Type} (operator : Operator σ) (c : InstallConfig) :
    Action σ Failure Installation := do
  announce c.shown
  (Installation.build operator c.request).mapError .release

/-- Build the patch for the extension in a file. -/
def runUpdate (files : Files) (c : UpdateConfig) : Action Unit Failure Patch := do
  announce c.shown
  let installed ← Action.ofExcept (readExtension files c.installed)
  Patch.build c.request installed

/-- Provision through the resource manager. -/
def runProvision (files : Files) (network : Http.Network) (c : BindingConfig) :
    Action Http.Wire Failure Provisioned := do
  announce c.shown
  let m ← Action.ofExcept ((ResourceManager.connect files c.connection).mapError .client)
  let ids ← (Provision.provision (m.plane network) c.location c.component c.service
    ⟨c.resourceGroup, c.environment⟩).mapError .provision
  Action.info "binding ready"
    [("service", .text ids.serviceId), ("component", .text ids.componentId)]
  pure ids

/-! ## 3. The whole -/

/-- What a run works on: the operator's state, and the wire. -/
structure Surroundings (σ : Type) where
  operator : σ
  wire : Http.Wire

/-- Run a command with its configuration. -/
def runConfig {σ : Type} (operator : Operator σ) (files : Files) (network : Http.Network)
    (s : Surroundings σ) (config : Config) : Report × Surroundings σ :=
  match config with
  | .install c =>
    let o := runInstall operator c s.operator
    (.ofOutcome c.logger Installation.toJson o, { s with operator := o.state })
  | .update c =>
    (.ofOutcome c.logger Patch.toJson (runUpdate files c ()), s)
  | .provision c =>
    let o := runProvision files network c s.wire
    (.ofOutcome c.logger Provisioned.toJson o, { s with wire := o.state })

/-- Run a command whose options have been read. -/
def run {σ : Type} (operator : Operator σ) (files : Files) (network : Http.Network)
    (s : Surroundings σ) (command : Command) : Report × Surroundings σ :=
  match command.load files with
  | .error e => (⟨.error (.configuration e), none, []⟩, s)
  | .ok config => runConfig operator files network s config

end DaprHosting
