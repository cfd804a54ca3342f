import DeviceLink.Config.Load
import DeviceLink.Log.Filter
import DeviceLink.Log.Layout
import DeviceLink.Logger
import DeviceLink.Rehearsal.TransportLink
import DeviceLink.Text.Lossy

/-!
# The agent

The program that keeps one device connected: it reads its settings, takes the device's identity
from the environment, connects, listens for messages to the device, and ends when the connection
is lost or somebody interrupts it.

* `Device` — who connects.
* `Agent.Surroundings` — what the agent finds when it starts.
* `Agent.run` — its lines and its exit code.

The agent is played through on a given network, with one thread and two workers that take turns.
-/

namespace DeviceLink

/-! ## The device -/

/-- A device's identity; the token stays out of every file. -/
structure Device where
  hostname : String
  deviceId : String
  token : Option String := none
  deriving DecidableEq, Repr

namespace Device

/-- The version of the service's interface that user names ask for. -/
def apiVersion : String := "2018-06-30"

/-- A variable that has to be there. -/
def required (env : String → Option String) (name : String) : Except String String :=
  match env name with
  | some value => .ok value
  | none => .error s!"{name} is not set"

def ofVariables (env : String → Option String) : Except String Device :=
  match required env "HUBPIPE_HOSTNAME", required env "HUBPIPE_DEVICE_ID" with
  | .error message, _ | .ok _, .error message => .error message
  | .ok hostname, .ok deviceId =>
    .ok { hostname, deviceId, token := env "HUBPIPE_SAS_TOKEN" }

def connectionArgs (d : Device) : ConnectionArgs where
  hostname := d.hostname
  username := s!"{d.hostname}/{d.deviceId}/?api-version={apiVersion}"
  clientId := d.deviceId

def topic (d : Device) : String := s!"devices/{d.deviceId}/messages/devicebound/#"

/-- What a device asks of its link, one after the other, until it is connected and listens. -/
def requests (d : Device) : List Request :=
  [.setConnectionArgs d.connectionArgs] ++
    (d.token.map fun token => Request.setCredential (.sasToken token)).toList ++
    [.connect, .subscribe d.topic]

end Device

/-! ## Shown for debugging -/

/-- The settings of the transport, one to a line. -/
def TransportConfig.shownTall (c : TransportConfig) : String :=
  let line (name value : String) : String := s!"    {name}: {value},\n"
  let tall (value : Option String) : String :=
    match value with
    | some text => s!"Some(\n        {text},\n    )"
    | none => "None"
  "Config \x7b\n" ++ line "port" (toString c.port) ++ line "keep_alive" (toString c.keepAlive) ++
    line "clean_session" (Text.truth c.cleanSession) ++
    line "max_inflight" (toString c.maxInflight) ++
    line "max_packet_size" (tall (c.maxPacketSize.map toString)) ++
    line "request_channel_capacity" (tall (c.requestChannelCapacity.map toString)) ++
    line "qos" (toString c.qos) ++ line "tls" (Text.truth c.tls) ++
    line "ca_cert_path" (tall (c.caCertPath.map Text.quoted)) ++ "\x7d"

namespace Agent

/-! ## What the agent finds and leaves -/

/-- What the agent finds when it starts. -/
structure Surroundings where
  /-- The variables of the environment. -/
  env : String → Option String
  files : Config.Files
  log : LogSystem
  network : Network

/-- A line on the console, and the worker that wrote it, if it was one. -/
structure Printed where
  worker : Option Context := none
  text : String
  deriving DecidableEq, Repr

/-- What the agent leaves: the lines it has written, and its exit code. -/
structure Ending where
  lines : List Printed
  code : UInt8
  deriving DecidableEq, Repr

/-- The variable that overrides the level of the log. -/
def filterVariable : String := "RUST_LOG"

def version : String := "0.1.0"

/-- A line before there is a log. -/
def early (line : LogLine) : Printed := { text := line.level.word ++ " " ++ line.text }

/-- A line of the program itself. -/
def own (line : LogLine) : LogRecord := ⟨.program, none, line⟩

/-- The files that the agent looks at first. -/
def firstFiles (env : String → Option String) : List String :=
  (env Config.variableName).toList ++ [Config.defaultPath]

/-- The files that its settings name. -/
def namedFiles (env : String → Option String) (files : Config.Files) : List String :=
  let text : Option String :=
    match Config.locate files (env Config.variableName) with
    | .error _ => none
    | .ok path =>
      match Config.readText (files path) with
      | .error _ => none
      | .ok text => some text
  match (text.bind Toml.parse?).bind Config.ofDocument? with
  | none => []
  | some c => c.transport.caCertPath.toList

/-! ## At work -/

abbrev Work := LinkRehearsal Transports

/-- The agent writes a line of its own. -/
def write (w : Work) (line : LogLine) : Work :=
  { w with link := w.link.write none .program line }

def eventLine : Event → LogLine
  | .incomingMessage topic payload => .info s!"Message on {topic}: {Text.ofBytes payload}"

/-- The callback worker writes a line for each event. -/
def hear (w : Work) : UserSight → Work
  | .completed _ _ => w
  | .event e => { w with link := w.link.write (some .callback) .program (eventLine e) }

def bound : Nat := 1000

/-- Does something and lets the workers go on. -/
def proceed (w : Work) (act : LinkAct Transports) : Work × List LinkNote :=
  let (w, report) := w.step bound [Network.part act]
  (report.user.foldl hear w, report.notes)

def execute (w : Work) (request : Request) : Work × Option Outcome :=
  let (w, notes) := proceed w (.execute request)
  (w, notes.findSome? fun note => match note with
    | .outcome o => some o
    | _ => none)

def executeAll (w : Work) : List Request → Work × Option Outcome
  | [] => (w, some (.ok ()))
  | request :: rest =>
    match execute w request with
    | (w, some (.ok ())) => executeAll w rest
    | (w, outcome) => (w, outcome)

def shutdown (w : Work) : Work := (proceed w .shutdown).1

/-- The connection is over: the agent ends. -/
def finish (w : Work) : Work × UInt8 :=
  (write (shutdown w) (.info "Shutdown complete"), 0)

/-- The agent is connected and waits until the connection is lost, or until it is interrupted. -/
def wait (w : Work) : Work × UInt8 :=
  match w.link.root.state with
  | .disconnected => finish (write w (.error "Connection lost"))
  | .connected =>
    let w := write w (.info "Received Ctrl+C, disconnecting...")
    match execute w .disconnect with
    | (w, some (.error f)) => finish (write w (.warn s!"Disconnect failed: {f.display}"))
    | (w, _) => finish w

/-- The agent works for a device. -/
def work (w : Work) (d : Device) : Work × UInt8 :=
  match executeAll w d.requests with
  | (w, some (.error f)) =>
    (shutdown (write w (.error s!"Failed to connect {d.deviceId}: {f.report}")), 1)
  | (w, _) => wait (write w (.info s!"Connected as {d.deviceId}, waiting for messages"))

/-- What the agent writes to its log once it has one, and its exit code. -/
def logged (s : Surroundings) (c : Config) : List LogRecord × UInt8 :=
  let start := [own (.info s!"Starting hubpipe version {version}..."),
    own (.debug c.transport.shownTall)]
  let fail (message : String) : List LogRecord × UInt8 := (start ++ [own (.error message)], 1)
  match Device.ofVariables s.env with
  | .error message => fail message
  | .ok device =>
    match Transports.new c.transport s.files true with
    | .error f => fail s!"Failed to create MQTT session factory: {f.display}"
    | .ok world =>
      let built : Except Failure (Link Token Transports) := Link.build c.pipeline true (some world)
      match built with
      | .error f => fail s!"Failed to build pipeline: {f.display}"
      | .ok link =>
        let (w, code) := work { link, surroundings := s.network.surroundings } device
        (start ++ w.link.log, code)

/-- The lines of a log that go to the console. -/
def console (s : Surroundings) (c : Config) (records : List LogRecord) :
    LogOutput → List Printed
  | .journald _ => []
  | .console settings =>
    let filter := LogFilter.inForce (s.env filterVariable) c.logger.level
    (records.filter filter.passes).map fun r =>
      ⟨r.worker, r.laidOut settings c.pipeline.threadNamePrefix⟩

/-- **The whole program.** -/
def run (s : Surroundings) : Ending :=
  match Config.find s.files (s.env Config.variableName) with
  | .error fault => ⟨[early (.error fault.message)], 1⟩
  | .ok c =>
    match c.logger.install s.log with
    | (said, .error fault) =>
      ⟨said.map early ++ [early (.error s!"Failed to init Log Manager: {fault.message}")], 1⟩
    | (said, .ok outputs) =>
      let (records, code) := logged s c
      ⟨said.map early ++ outputs.flatMap (console s c records), code⟩

end Agent

end DeviceLink
