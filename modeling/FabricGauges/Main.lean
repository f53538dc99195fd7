import FabricGauges.Http.Message
import FabricGauges.Launch.Exporter
import FabricGauges.Log.Line
import Std.Async
import Std.Net

/-!
# The program

Reads the command line, the settings and the files they name, and runs the exporter until a signal
arrives. All that is decided here is when things happen; what happens is up to the library. There is
no secure channel, so requests for an `https` URL cannot be sent.
-/

namespace FabricGauges.Program

open Std.Async
open Std.Async.TCP (Socket.Client Socket.Server)

/-! ## Files and logging -/

/-- The bytes of a file, or why there are none. -/
def readFile (path : String) : IO (Except FileFault ByteArray) := do
  try return .ok (← IO.FS.readBinFile path)
  catch
    | .noFileOrDirectory .. => return .error .missing
    | .inappropriateType .. => return .error .directory
    | e => return .error (.other (toString e))

/-- The files at some paths. -/
def readFiles (paths : List String) : IO Files := do
  let read ← paths.mapM fun path => do return (path, ← readFile path)
  return fun path => (read.lookup path).getD (.error .missing)

/-- Writes an event, if it is written at all. -/
def emit (l : Logger) (e : Event) : IO Unit := do
  if let some line := l.line? e then
    let out ← IO.getStdout
    out.putStrLn line
    out.flush

/-! ## The network -/

/-- An address as the network takes it. -/
def netAddress (host : Host) (port : UInt16) : Async (Option Std.Net.SocketAddress) := do
  match host with
  | .ipv4 a => return some (.v4 ⟨.ofParts a.first a.second a.third a.fourth, port⟩)
  | .ipv6 a =>
    let g := a.groups
    return some (.v6 ⟨.ofParts g[0] g[1] g[2] g[3] g[4] g[5] g[6] g[7], port⟩)
  | .domain name =>
    let found ← DNS.getAddrInfo name (toString port.toNat)
    match found.toList with
    | .v4 a :: _ => return some (.v4 ⟨a, port⟩)
    | .v6 a :: _ => return some (.v6 ⟨a, port⟩)
    | [] => return none

/-- Everything that arrives until the connection ends. -/
partial def receive (socket : Socket.Client) (got : ByteArray) : Async ByteArray := do
  match ← socket.recv? 65536 with
  | none => return got
  | some bytes => receive socket (got ++ bytes)

/-- Sends a request once. -/
def sendOnce (c : Client) (url : Url) : Async Reaction := do
  match url.scheme with
  | .https => return .unsent
  | .http =>
    let port := UInt16.ofNat (url.port.getD url.scheme.defaultPort)
    match ← netAddress url.host port with
    | none => return .unsent
    | some address =>
      let socket ← Socket.Client.mk
      socket.connect address
      socket.send (Http.request url c.authorization).toUTF8
      return Http.reaction (← receive socket .empty).toList

/-- Sends a request once, unless it takes too long. -/
def send (l : Launch) (url : Url) : Async Reaction := do
  let limit := l.settings.connection.timeoutSecs.toNat * 1000
  try
    Async.race (some <$> sendOnce l.client url) (do sleep (.ofNat limit); return none)
      <&> (·.getD .unsent)
  catch _ => return .unsent

/-- The exchange of a request that has been repeated some times. -/
partial def ask (l : Launch) (r : Request) (attempt : Nat) : Async (Except ApiError r.Answer) := do
  let delay := l.client.policy.delayMs (← IO.rand 0 UInt64.size)
  let reaction ← match l.client.location r with
    | .ok url => send l url
    | .error _ => pure .unsent
  match (l.client.policy.judge (l.client.url r) attempt delay reaction : Verdict r.Answer) with
  | .over events result =>
    for event in events do emit l.settings.logger event
    return result
  | .again event =>
    emit l.settings.logger event
    sleep (.ofNat delay)
    ask l r (attempt + 1)

/-! ## Scraping -/

/-- What the parts of the program share. -/
structure Shared where
  launch : Launch
  /-- The exporter as it was started. -/
  exporter : Exporter
  state : IO.Ref Scraper.State
  stopping : IO.Ref Bool

/-- Waits until a time or until the program stops. -/
partial def pause (p : Shared) (wakeAt : Nat) : Async Unit := do
  let now ← IO.monoMsNow
  if now < wakeAt ∧ !(← p.stopping.get) then
    sleep (.ofNat (min 100 (wakeAt - now)))
    pause p wakeAt

/-- Runs the scraper from a moment at which it waits. -/
partial def scrape (p : Shared) (t : Scraper.Task) (began : Nat) : Async Unit := do
  for event in t.logged do emit p.exporter.logger event
  p.state.set t.state
  let t := { t with logged := [] }
  let goOn (stimulus : Scraper.Stimulus) (began : Nat) : Async Unit := do
    let stimulus := if ← p.stopping.get then .notice (.value true) else stimulus
    scrape p (p.exporter.scraper.react t stimulus) began
  match t.phase with
  | .stopped => return
  | .sleeping delay =>
    pause p ((← IO.monoMsNow) + delay.milliseconds)
    goOn .wake (← IO.monoNanosNow)
  | .asking r _ =>
    let answer ← ask p.launch r 0
    let reply (other : Request) : Except ApiError other.Answer :=
      if h : r = other then h ▸ answer else .error (.transport (p.launch.client.url other))
    goOn (.answer reply ⟨(← IO.monoNanosNow) - began⟩) began

/-! ## Serving -/

/-- Everything that arrives until the head of a request is complete. -/
partial def receiveHead (socket : Socket.Client) (got : ByteArray) : Async ByteArray := do
  if (Http.splitHead got.toList).isSome then return got
  match ← socket.recv? 4096 with
  | none => return got
  | some bytes => receiveHead socket (got ++ bytes)

/-- Answers one request. -/
def answer (p : Shared) (socket : Socket.Client) : Async Unit := do
  let request ← receiveHead socket .empty
  let task := { p.exporter.task with state := ← p.state.get }
  if let some response := { p.exporter with task }.answer? request.toList then
    socket.send (Http.response response).toUTF8
  socket.shutdown

/-- Answers requests as they come. -/
partial def serve (p : Shared) (server : Socket.Server) : Async Unit := do
  let socket ← server.accept
  background do
    try answer p socket catch _ => return
  serve p server

/-- Takes an address, or says why it cannot be had. -/
def listen (address : SocketAddress) : IO (Except String Socket.Server) := do
  try
    let server ← Socket.Server.mk
    let net ← match address with
      | .ipv4 a port => (netAddress (.ipv4 a) port).block
      | .ipv6 a _ port => (netAddress (.ipv6 a) port).block
    if let some net := net then
      server.bind net
      server.listen 1024
    return .ok server
  catch
    | .resourceBusy .. => return .error addressInUse
    | e => return .error (toString e)

/-! ## Running -/

/-- Waits for a signal to stop. -/
def awaitSignal : IO StopSignal := do
  let terminate ← (← Signal.Waiter.mk .sigterm false).wait
  let interrupt ← (← Signal.Waiter.mk .sigint false).wait
  let first ← IO.waitAny
    [terminate.map fun _ => StopSignal.terminate, interrupt.map fun _ => StopSignal.interrupt]
  IO.ofExcept first

/-- Waits for a task for a while. -/
partial def await {α : Type} (task : Task α) (until_ : Nat) : IO Unit := do
  if !(← IO.hasFinished task) ∧ (← IO.monoMsNow) < until_ then
    IO.sleep 20
    await task until_

/-- Runs an exporter until a signal arrives. -/
def runExporter (l : Launch) : IO Unit := do
  let server ← listen l.address
  let e := Exporter.start l (match server with
    | .ok _ => none
    | .error reason => some reason)
  let p : Shared := ⟨l, e, ← IO.mkRef e.task.state, ← IO.mkRef false⟩
  let task ← Async.toIO (scrape p e.task (← IO.monoNanosNow))
  match e.endpoint, server with
  | .ok endpoint, .ok server =>
    endpoint.logged.forM (emit e.logger)
    let _ ← Async.toIO (serve p server)
  | .error fault, _ => fault.event?.forM (emit e.logger)
  | _, _ => return
  let signal ← awaitSignal
  emit e.logger signal.event
  p.stopping.set true
  await task ((← IO.monoMsNow) + 5000)
  if let .ok endpoint := e.endpoint then
    ({ endpoint with logged := [] }.notice (.value true)).logged.forM (emit e.logger)
  emit e.logger (← p.state.get).stats.summary
  emit e.logger .exporterStopped

/-- Reports a fault. -/
def report (f : LaunchFault) : IO Unit := f.report.forM fun line => IO.eprintln line

/-- Runs the exporter with some arguments. -/
def run (a : Arguments) : IO UInt32 := do
  match Settings.effective (← readFiles [a.configPath]) a with
  | .error f => report (.load f); return 1
  | .ok s =>
    emit s.logger (Launch.begun s)
    let c := s.connection
    let paths := [c.caPath, c.certificatePath, c.keyPath].filterMap id
    match Launch.ofSettings (← readFiles paths) s with
    | .error f => report f; return 1
    | .ok l => runExporter l; return 0

end FabricGauges.Program

open FabricGauges in
/-- Runs the exporter as the command line says. -/
def main (args : List String) : IO UInt32 := do
  match Invocation.ofArguments args with
  | .help => IO.println usage; return 0
  | .version => IO.println versionLine; return 0
  | .misuse => IO.eprintln usage; return 2
  | .run a => Program.run a
