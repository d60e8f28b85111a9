import ServiceMux.Bench.Exchange
import ServiceMux.Bench.Settle
/-! What can be done on a bench, one step after another. After each step everything runs that can,
and then the bench is looked at. -/
namespace ServiceMux.Bench

inductive Source where
  | scripted (dial : Dial)
  | plain

def Source.provider : Source → Provider
  | scripted dial => fun _ _ => dial
  | plain => .plain fun _ => {}

structure OpenOrder where
  service : Service
  address : Option HostAddress
  credentials : Option Credentials
  secure : Option SecureChannel
  /-- Replies are read with the shared registry, and not with the bench's own. -/
  sharedRegistry : Bool
  config : Config
  exchange : Exchange

inductive Action where
  | accept (lease : String) (service : Service) (config : Config) (change : Pipe → Pipe)
  | connect (task lease : String) (order : OpenOrder) (source : Source) (change : Pipe → Pipe)
  | adjust (change : Pipe → Pipe)
  /-- The far side sends, with everything at rest between two pieces. -/
  | arrive (pieces : List Arrival)
  | advance (span : Duration)
  /-- A reply is waited for as long as the connection's default says. -/
  | exchange (task : String) (request : Datastream) (keep : Option String)
  | submit (task : String) (purpose : Purpose) (request : Datastream) (keep : Option String)
  | wait (task handle : String) (within : Option Duration) (keep : Option String)
  | abort (task : String)
  | dropHandle (handle : String)
  | interrupt (handle : String)
  | attach (lease : String)
  | attachVia (via lease : String)
  | release (lease : String)
  | inspectLease (lease : String)
  | dropConnection
  | disconnect
  | newIds (count : Nat)
  | setJob (job : String)
  | setReplyTimeout (timeout : Option Duration)
  | addPrototype (discriminator : UInt16) (type : ReplyType)
  | clearPrototypes
  | setAttributes (reply : String)
  | describe

structure Step where
  slot : Nat
  action : Action

inductive Told where
  | nothing
  /-- What the step names is not there. -/
  | missing
  | noConnection
  | flag (yes : Bool)
  | attached (outcome : Except ServerError Unit)
  | ids (outcomes : List (Except ServerError UInt32))
  | text (text : String)
  | described (c : Connection Datastream)

def onHeld (b : Bench) (slot : Nat)
    (change : Connection Datastream → Connection Datastream × Told) : Bench × Told :=
  match b.held? slot with
  | none => (b, .noConnection)
  | some (id, c) =>
    let (c, told) := change c
    (b.putConnection id c, told)

def attachTo (b : Bench) (id : StationId) (c : Connection Datastream) (lease : String) :
    Bench × Told :=
  match c.attach with
  | .error e => (b, .attached (.error e))
  | .ok c => ((b.putConnection id c).keepLease lease id, .attached (.ok ()))

/-- Takes ids one after another, whether there are any left or not. -/
def takeIds (c : Connection Datastream) :
    Nat → Connection Datastream × List (Except ServerError UInt32)
  | 0 => (c, [])
  | n + 1 =>
    match c.newCorrelationId with
    | .ok (id, c) =>
      let (c, rest) := takeIds c n
      (c, .ok id :: rest)
    | .error e =>
      let (c, rest) := takeIds c n
      (c, .error e :: rest)

def beginCall (b : Bench) (slot : Nat) (task : String) (keep : Option String)
    (submit : Connection Datastream → CallId → Begun Datastream) : Bench × Told :=
  match b.held? slot with
  | none => (b, .noConnection)
  | some (id, c) =>
    let call := b.nextCall
    let begun := submit c call
    let stamped := some (Message.correlationId begun.request)
    let b := { b.putConnection id begun.connection with nextCall := call + 1 }
    let b := b.begin ⟨task, .call id call stamped keep⟩
    match begun.outcome with
    | none => (b, .nothing)
    | some outcome => (b.finishCall task id stamped keep outcome, .nothing)

/-- A task takes a pending reply away from its name and waits for it. -/
def beginWait (b : Bench) (task handle : String) (within : Option Duration)
    (keep : Option String) : Bench × Told :=
  match b.handles.find? handle with
  | none => (b, .missing)
  | some (id, r) =>
    match b.connectionAt? id with
    | none => (b, .missing)
    | some c =>
      let call := b.nextCall
      let b := b.putConnection id (c.beginWait call r within b.now)
      let b := { b with handles := b.handles.erase handle, nextCall := call + 1 }
      (b.begin ⟨task, .call id call none keep⟩, .nothing)

def abandon (b : Bench) (task : Task) : Bench :=
  match task.job with
  | .call id call _ _ =>
    match b.connectionAt? id with
    | none => b.finish task.name .aborted
    | some c => (b.putConnection id (c.abandon call)).finish task.name .aborted
  | .dialing .. => b.finish task.name .aborted
  | .negotiating _ _ id =>
    let b := b.finish task.name .aborted
    match (b.stations[id]?).map Station.link with
    | some (.opening _ n) => b.setLink id (.connected n.abandon)
    | _ => b

/-- Changes the slot's stream if nobody has taken it yet, and says what is left to change on the
one that is taken later. -/
def prepare (b : Bench) (slot : Nat) (change : Pipe → Pipe) : Bench × (Pipe → Pipe) :=
  match b.station? slot with
  | none => (b, change)
  | some (id, s) => if s.isVacant then (b.changePipe id change, fun p => p) else (b, change)

def beginOpen (b : Bench) (slot : Nat) (task lease : String) (order : OpenOrder)
    (source : Source) (change : Pipe → Pipe) : Bench :=
  let opening : Opening Datastream :=
    { service := order.service
      address := order.address
      credentials := order.credentials
      secure := order.secure
      registry := if order.sharedRegistry then none else some b.registry
      config := order.config
      handshake := order.exchange.handshake }
  let dials :=
    match source, order.address with
    | .scripted _, some address => [(address, order.secure)]
    | _, _ => []
  let b := b.changePlace slot fun p => { p with dials := p.dials ++ dials }
  let (b, change) := b.prepare slot change
  match opening.dial source.provider b.now with
  | .ok dialing => b.begin ⟨task, .dialing slot lease opening dialing change⟩
  | .error e =>
    { b with started := task :: b.started, completed := b.completed ++ [⟨task, .failed e, none⟩] }

/-- What a step does at once, before anything else moves. -/
def act (b : Bench) (slot : Nat) : Action → Bench × Told
  | .accept lease service config change =>
    let c := Connection.establish b.nextConnection service b.registry config
    let (id, b) := b.fresh slot
    let b := { b.changePipe id change with nextConnection := b.nextConnection + 1 }
    (((b.setLink id (.connected c)).hold slot id).keepLease lease id, .nothing)
  | .connect task lease order source change =>
    (b.beginOpen slot task lease order source change, .nothing)
  | .adjust change =>
    match b.place? slot with
    | none => (b, .nothing)
    | some p => (b.changePipe p.stream change, .nothing)
  | .arrive pieces =>
    (pieces.foldl
      (fun b piece =>
        match b.place? slot with
        | none => b
        | some p => (b.changePipe p.stream (·.send piece)).settle)
      b, .nothing)
  | .advance span => ({ b with now := b.now + span.nanos }, .nothing)
  | .exchange task request keep =>
    b.beginCall slot task keep fun c call => c.sendAndReceive call request
  | .submit task purpose request keep =>
    b.beginCall slot task keep fun c call => c.submit call purpose request
  | .wait task handle within keep => b.beginWait task handle within keep
  | .abort task =>
    match b.tasks.find? (·.name == task) with
    | some running => (b.abandon running, .flag true)
    | none => (b, if b.started.contains task then .flag false else .missing)
  | .dropHandle handle =>
    match b.handles.find? handle with
    | none => (b, .flag false)
    | some (id, r) =>
      let b := { b with handles := b.handles.erase handle }
      match b.connectionAt? id with
      | none => (b, .flag true)
      | some c => (b.putConnection id (c.dropInbox r), .flag true)
  | .interrupt handle =>
    match b.interrupters.find? handle with
    | none => (b, .missing)
    | some (id, r) =>
      match b.connectionAt? id with
      | none => (b, .flag false)
      | some c =>
        let (c, ended) := c.interrupt r
        (b.putConnection id c, .flag ended)
  | .attach lease =>
    match b.held? slot with
    | none => (b, .noConnection)
    | some (id, c) => b.attachTo id c lease
  | .attachVia via lease =>
    match b.leases.find? via with
    | none => (b, .missing)
    | some id =>
      match b.connectionAt? id with
      | none => (b, .missing)
      | some c => b.attachTo id c lease
  | .release lease =>
    match b.leases.find? lease with
    | none => (b, .missing)
    | some _ => (b.releaseLease lease, .nothing)
  | .inspectLease lease =>
    match (b.leases.find? lease).bind b.connectionAt? with
    | none => (b, .missing)
    | some c => (b, .text c.inspectLease)
  | .dropConnection =>
    match b.held? slot with
    | none => (b, .flag false)
    | some _ => (b.changePlace slot fun p => { p with held := none }, .flag true)
  | .disconnect => b.onHeld slot fun c => (c.close .forced, .nothing)
  | .newIds count =>
    b.onHeld slot fun c =>
      let (c, outcomes) := takeIds c count
      (c, .ids outcomes)
  | .setJob job => b.onHeld slot fun c => ({ c with job }, .text job)
  | .setReplyTimeout timeout =>
    b.onHeld slot fun c => ({ c with replyTimeout := timeout }, .nothing)
  | .addPrototype discriminator type =>
    b.onHeld slot fun c => (c.addPrototype discriminator type.prototype, .nothing)
  | .clearPrototypes => b.onHeld slot fun c => (c.clearPrototypes, .nothing)
  | .setAttributes reply =>
    match b.held? slot, b.replies.find? reply with
    | none, _ => (b, .noConnection)
    | some _, none => (b, .missing)
    | some (id, c), some found =>
      ({ b.putConnection id { c with attributes := some found } with
        replies := b.replies.erase reply }, .nothing)
  | .describe => b.onHeld slot fun c => (c, .described c)

/-- The task that a step starts; it is the first to move. -/
def Action.task? : Action → Option String
  | .connect task .. | .exchange task .. | .submit task .. | .wait task .. => some task
  | _ => none

structure Report where
  told : Told
  completed : List Completion
  connection : Option (Connection Datastream)
  written : List UInt8
  letGo : Bool
  dials : List (HostAddress × Option SecureChannel)
  warnings : List Warning

/-- Looks at a slot. What is new is shown once. -/
def look (b : Bench) (slot : Nat) (told : Told) : Report × Bench :=
  let writer := (b.station? slot).bind fun (_, s) => s.connection?
  let written := (writer.map (·.written)).getD []
  let shown := ((b.station? slot).map fun (_, s) => s.shown).getD 0
  let rest := { b with completed := [], warnings := [] }
  let rest :=
    match b.station? slot with
    | some (id, s) =>
      { rest with stations := b.stations.set id { s with shown := written.length } }
    | none => rest
  ({ told
     completed := b.completed
     connection := (b.held? slot).map (·.2)
     written := written.drop shown
     letGo := writer.any (·.hasLetGo)
     dials := ((b.place? slot).map (·.dials)).getD []
     warnings := b.warnings },
    rest.changePlace slot fun p => { p with dials := [] })

def step (b : Bench) (s : Step) : Report × Bench :=
  let (b, told) := (b.withSlot s.slot).act s.slot s.action
  (b.settle s.action.task?).look s.slot told

def run (b : Bench) : List Step → List Report × Bench
  | [] => ([], b)
  | s :: rest =>
    let (report, b) := b.step s
    let (reports, b) := run b rest
    (report :: reports, b)

/-- The names of the tasks that are not over, in order. -/
def running (b : Bench) : List String :=
  (b.tasks.map Task.name).mergeSort fun a b => decide (a ≤ b)

/-- A bench with registries of these replies; a registration that is refused changes nothing. -/
def ofRegistrations (own shared : List (Service × UInt16 × ReplyType)) : Bench :=
  { registry :=
      own.foldl
        (fun r (service, discriminator, type) =>
          (r.register service discriminator type.prototype).toOption.getD r)
        .empty
    shared :=
      shared.foldl
        (fun r (service, discriminator, type) =>
          (r.register service discriminator type.prototype).toOption.getD r)
        {} }

end ServiceMux.Bench
