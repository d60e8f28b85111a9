import ServiceMux.Bench.Station
/-! A bench: connections over scripted streams, the calls made on them by name, and a clock that
moves only when it is told to. -/
namespace ServiceMux.Bench

/-- Things under names; a name given again stands for the later thing. -/
structure Named (α : Type) where
  entries : List (String × α) := []

namespace Named
variable {α : Type}

def find? (n : Named α) (name : String) : Option α := n.entries.lookup name

def erase (n : Named α) (name : String) : Named α := ⟨n.entries.filter (·.1 != name)⟩

def put (n : Named α) (name : String) (thing : α) : Named α :=
  ⟨(n.erase name).entries ++ [(name, thing)]⟩

end Named

/-- Stations are told apart by number. -/
abbrev StationId := Nat

/-- What a slot refers to: a stream of its own, and perhaps a connection, which may be one over an
earlier stream. -/
structure Place where
  stream : StationId
  held : Option StationId := none
  /-- Where streams were asked for, and how encrypted, as far as it was not shown yet. -/
  dials : List (HostAddress × Option SecureChannel) := []

inductive Job where
  /-- A call, with the id that its request is stamped with, and a name for its reply. -/
  | call (station : StationId) (call : CallId) (stamped : Option UInt32) (keep : Option String)
  /-- An opening without a stream yet; the one that it takes is changed first. -/
  | dialing (slot : Nat) (lease : String) (opening : Opening Datastream)
      (dialing : Opening.Dialing) (change : Pipe → Pipe)
  | negotiating (slot : Nat) (lease : String) (station : StationId)

structure Task where
  name : String
  job : Job

inductive Result where
  | answer (answer : Answer Datastream)
  | opened (job : String)
  | failed (e : ServerError)
  | aborted

structure Completion where
  task : String
  result : Result
  stamped : Option UInt32 := none

/-- A time at which a task has something to do: its wait for the reply to a call is over, or else
the dialing or the handshake of its opening. -/
structure Alarm where
  task : String
  call : Option CallId
  due : Instant
  deriving DecidableEq, Repr

end Bench

/-- Tasks are in the order in which they were started. -/
structure Bench where
  registry : Registry Bench.Datastream
  shared : SharedRegistry Bench.Datastream := {}
  now : Instant := 0
  stations : List Bench.Station := []
  slots : List (Nat × Bench.Place) := []
  tasks : List Bench.Task := []
  /-- In the order in which they were set. -/
  alarms : List Bench.Alarm := []
  /-- The names of all tasks there ever were. -/
  started : List String := []
  leases : Bench.Named Bench.StationId := {}
  /-- Pending replies that no task waits for. -/
  handles : Bench.Named (Bench.StationId × Registration) := {}
  interrupters : Bench.Named (Bench.StationId × Registration) := {}
  replies : Bench.Named (Reply Bench.Datastream) := {}
  nextConnection : UInt32 := 1
  /-- The handshake's calls have the numbers before it. -/
  nextCall : CallId := 2
  /-- What ended, and what was reported, since the last look. -/
  completed : List Bench.Completion := []
  warnings : List Warning := []

namespace Bench

def place? (b : Bench) (slot : Nat) : Option Place := b.slots.lookup slot

def putPlace (b : Bench) (slot : Nat) (p : Place) : Bench :=
  { b with slots := (slot, p) :: b.slots.filter (·.1 != slot) }

def changePlace (b : Bench) (slot : Nat) (change : Place → Place) : Bench :=
  match b.place? slot with
  | some p => b.putPlace slot (change p)
  | none => b

/-- The station whose stream is the slot's. -/
def station? (b : Bench) (slot : Nat) : Option (StationId × Station) :=
  match b.place? slot with
  | none => none
  | some p => b.stations[p.stream]?.map (p.stream, ·)

def connectionAt? (b : Bench) (id : StationId) : Option (Connection Datastream) :=
  (b.stations[id]?).bind Station.connection?

/-- The connection that a slot holds. -/
def held? (b : Bench) (slot : Nat) : Option (StationId × Connection Datastream) :=
  match (b.place? slot).bind Place.held with
  | none => none
  | some id => (b.connectionAt? id).map (id, ·)

/-- The station as it is now; what its connection newly reported is noted. -/
def put (b : Bench) (id : StationId) (s : Station) : Bench :=
  let before :=
    match b.stations[id]? with
    | some old => old.warnings.length
    | none => 0
  { b with
    stations := b.stations.set id s
    warnings := b.warnings ++ s.warnings.drop before }

def putConnection (b : Bench) (id : StationId) (c : Connection Datastream) : Bench :=
  match b.stations[id]? with
  | some s => b.put id (s.withConnection c)
  | none => b

def setLink (b : Bench) (id : StationId) (link : Link) : Bench :=
  match b.stations[id]? with
  | some s => b.put id { s with link }
  | none => b

/-- Gives a slot a stream that nobody has taken yet: the one it has, or else a new one. -/
def fresh (b : Bench) (slot : Nat) : StationId × Bench :=
  let id := b.stations.length
  let added := { b with stations := b.stations ++ [Station.mk slot {} .vacant 0] }
  match b.place? slot with
  | none => (id, added.putPlace slot { stream := id })
  | some p =>
    if (b.stations[p.stream]?).any Station.isVacant then (p.stream, b)
    else (id, added.putPlace slot { p with stream := id })

/-- A slot has a stream from the first time it is spoken of. -/
def withSlot (b : Bench) (slot : Nat) : Bench :=
  match b.place? slot with
  | some _ => b
  | none => (b.fresh slot).2

def changePipe (b : Bench) (id : StationId) (change : Pipe → Pipe) : Bench :=
  match b.stations[id]? with
  | some s => b.put id { s with pipe := change s.pipe }
  | none => b

/-- The slot holds the connection of this station from now on, and no other. -/
def hold (b : Bench) (slot : Nat) (id : StationId) : Bench :=
  b.changePlace slot fun p => { p with held := some id }

def releaseLease (b : Bench) (name : String) : Bench :=
  match b.leases.find? name with
  | none => b
  | some id =>
    let b := { b with leases := b.leases.erase name }
    match b.connectionAt? id with
    | some c => b.putConnection id c.release
    | none => b

/-- Keeps a new lease under a name. A lease that was there is let go after that. -/
def keepLease (b : Bench) (name : String) (id : StationId) : Bench :=
  let b := b.releaseLease name
  { b with leases := b.leases.put name id }

def begin (b : Bench) (task : Task) : Bench :=
  { b with tasks := b.tasks ++ [task], started := task.name :: b.started }

def reassign (b : Bench) (task : String) (job : Job) : Bench :=
  { b with tasks := b.tasks.map fun t => if t.name == task then { t with job } else t }

def finish (b : Bench) (task : String) (result : Result) (stamped : Option UInt32 := none) :
    Bench :=
  { b with
    tasks := b.tasks.filter (·.name != task)
    completed := b.completed ++ [⟨task, result, stamped⟩] }

/-- Notes what a call came to. A pending reply is known by the task's name from then on. -/
def finishCall (b : Bench) (task : String) (station : StationId) (stamped : Option UInt32)
    (keep : Option String) (outcome : Outcome Datastream) : Bench :=
  match outcome with
  | .error e => b.finish task (.failed e) stamped
  | .ok answer =>
    let b := b.finish task (.answer answer) stamped
    match answer, keep with
    | .handle r, _ =>
      { b with
        handles := b.handles.put task (station, r)
        interrupters := b.interrupters.put task (station, r) }
    | .reply reply, some name => { b with replies := b.replies.put name reply }
    | _, _ => b

end Bench
end ServiceMux
