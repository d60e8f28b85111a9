import ServiceMux.Bench.Basic
/-! Letting a bench run until nothing moves. Whoever can move is let run in the order in which they
came to be able to, and each for as long as it gets any further. -/
namespace ServiceMux.Bench

inductive Mover where
  | reader (station : StationId)
  | task (name : String)
  deriving DecidableEq, Repr

/-- The call by which a task stands on a connection, in line there or waiting for a reply. -/
def standing? (b : Bench) (t : Task) : Option (StationId × CallId) :=
  match t.job with
  | .call id call .. => some (id, call)
  | .dialing .. => none
  | .negotiating _ _ id =>
    match (b.stations[id]?).map Station.link with
    | some (.opening _ n) => some (id, n.stage.call)
    | _ => none

/-- Until when the handshake under way at a station may take. -/
def handshakeLimit? (b : Bench) (id : StationId) : Option Deadline :=
  match (b.stations[id]?).map Station.link with
  | some (.opening _ n) => some n.limit
  | _ => none

/-! Alarms. -/

def callAlarms (b : Bench) (t : Task) : List Alarm :=
  match b.standing? t with
  | none => []
  | some (id, call) =>
    match b.connectionAt? id with
    | none => []
    | some c =>
      let deadlines := (c.waits.filter (·.call == call)).filterMap Wait.deadline
      deadlines.filterMap fun d => d.due.map (Alarm.mk t.name (some call) ·)

/-- What a task has set an alarm for: the end of its wait for a reply, and the time that all of an
opening's dialing or handshake may take. -/
def alarmsFor (b : Bench) (t : Task) : List Alarm :=
  let limits :=
    match t.job with
    | .call .. => []
    | .dialing _ _ _ d _ => d.ready.toList ++ [d.limit]
    | .negotiating _ _ id => (b.handshakeLimit? id).toList
  b.callAlarms t ++ limits.filterMap fun d => d.due.map (Alarm.mk t.name none ·)

/-- Puts new alarms behind those set before, and lets go of those that are not needed any more. -/
def noteAlarms (b : Bench) : Bench :=
  let needed := b.tasks.flatMap b.alarmsFor
  let kept := b.alarms.filter (needed.contains ·)
  { b with alarms := kept ++ needed.filter (!kept.contains ·) }

/-- The alarms that are due, the earliest first, and of those for one time the one set first. -/
def dueAlarms (b : Bench) : List Alarm :=
  (b.alarms.filter (·.due ≤ b.now)).mergeSort (·.due ≤ ·.due)

/-! Who can move. -/

/-- Whether a task would get any further if it ran now. -/
def taskIsReady (b : Bench) (t : Task) : Bool :=
  let served :=
    match b.standing? t with
    | none => false
    | some (id, call) =>
      (b.stations[id]?).any fun s =>
        s.connection?.any fun c => Station.isReady s.pipe c call b.now
  match t.job with
  | .call .. => served
  | .dialing _ _ o d _ => (o.dialed d b.now).isSome
  | .negotiating _ _ id => served || (b.handshakeLimit? id).any (·.isDue b.now)

def isReady (b : Bench) : Mover → Bool
  | .reader id => (b.stations[id]?).any Station.readerIsReady
  | .task name => (b.tasks.find? (·.name == name)).any b.taskIsReady

/-- The tasks whose waits at a station are decided, in the order in which they were. -/
def answered (b : Bench) (id : StationId) : List Mover :=
  match b.connectionAt? id with
  | none => []
  | some c =>
    (c.inboxes.filter (·.result.isSome)).filterMap fun i => do
      let w ← c.waits.find? (·.registration == i.registration)
      let t ← b.tasks.find? (b.standing? · == some (id, w.call))
      return .task t.name

/-- All who can move, in the order in which what they waited for came about. -/
def ready (b : Bench) : List Mover :=
  let stations := (List.range b.stations.length).flatMap fun id => b.answered id ++ [.reader id]
  let movers := b.dueAlarms.map (.task ·.task) ++ stations ++ b.tasks.map (.task ·.name)
  (movers.filter b.isReady).eraseDups

/-! Moving. -/

/-- The call's next attempt to write. A pipe that has a connection disconnected means the one that
its slot holds at that moment, and no other. -/
def attempt (b : Bench) (id : StationId) (s : Station) (c : Connection Datastream)
    (call : CallId) : WriteAttempt × Bench :=
  let (attempt, s) := s.attempt c call
  let b := b.put id s
  let inert := { attempt with disconnects := false }
  match attempt.disconnects, b.held? s.slot with
  | false, _ => (attempt, b)
  | true, none => (inert, b)
  | true, some (other, held) =>
    if other = id then (attempt, b) else (inert, b.putConnection other (held.close .forced))

/-- Notes how far an opening got on its connection. -/
def progress (b : Bench) (task : String) (slot : Nat) (lease : String) (id : StationId)
    (o : Opening Datastream) : Opening.Progress Datastream → Bench
  | .going n => (b.setLink id (.opening o n)).reassign task (.negotiating slot lease id)
  | .opened c =>
    let b := (b.setLink id (.connected c)).hold slot id
    (b.keepLease lease id).finish task (.opened c.job)
  | .failed e c => (b.setLink id (.connected c)).finish task (.failed e)

/-- The stream is there, and becomes that of the slot. -/
def connect (b : Bench) (task : String) (slot : Nat) (lease : String)
    (o : Opening Datastream) (d : Opening.Dialing) (change : Pipe → Pipe)
    (localAddress : Option Net.SocketAddress) : Bench :=
  let (id, b) := b.fresh slot
  let (progress, shared) := o.connect d.address localAddress b.nextConnection b.shared b.now
  let b := { b.changePipe id change with nextConnection := b.nextConnection + 1, shared }
  b.progress task slot lease id o progress

def moveTask (b : Bench) (t : Task) : Bench :=
  match t.job with
  | .call id call stamped keep =>
    match b.stations[id]?, b.connectionAt? id with
    | some s, some c =>
      let (attempt, b) := b.attempt id s c call
      let (c, outcome) := c.poll call b.now attempt
      let b := b.putConnection id c
      match outcome with
      | none => b
      | some outcome => b.finishCall t.name id stamped keep outcome
    | _, _ => b
  | .dialing slot lease o d change =>
    match o.dialed d b.now with
    | none => b
    | some (.error e) => b.finish t.name (.failed e)
    | some (.ok localAddress) => b.connect t.name slot lease o d change localAddress
  | .negotiating slot lease id =>
    match b.stations[id]? with
    | none => b
    | some s =>
      match s.link with
      | .opening o n =>
        if Station.isReady s.pipe n.connection n.stage.call b.now then
          let (attempt, b) := b.attempt id s n.connection n.stage.call
          b.progress t.name slot lease id o (o.poll n b.now attempt)
        else b.progress t.name slot lease id o (o.expire n)
      | _ => b

def move (b : Bench) : Mover → Bench
  | .reader id =>
    match b.stations[id]? with
    | some s => b.put id s.pollReader
    | none => b
  | .task name =>
    match b.tasks.find? (·.name == name) with
    | some t => b.moveTask t
    | none => b

/-- Whoever is first in the queue runs until it gets no further; those who can move now and could
not before stand behind all the others. -/
def settleWithin : Nat → List Mover → Bench → Bench
  | 0, _, b => b
  | fuel + 1, queue, b =>
    match queue.dropWhile (!b.isReady ·) with
    | [] => b
    | first :: rest =>
      let b := (b.move first).noteAlarms
      let queue := first :: rest
      settleWithin fuel (queue ++ b.ready.filter (!queue.contains ·)) b

/-- More moves than can be made: a read takes bytes that came in, and a task moves when it starts
to write, when a pipe takes or refuses what it has, and when its wait is over. -/
def movesLeft (b : Bench) : Nat :=
  b.stations.foldl (fun moves s => moves + s.readerWork) (32 * (b.tasks.length + 1))

/-- Lets everything run that can. After `first` was begun, it is the first to move. -/
def settle (b : Bench) (first : Option String := none) : Bench :=
  let b := b.noteAlarms
  let first := first.toList.map Mover.task
  settleWithin b.movesLeft (first ++ b.ready.filter (!first.contains ·)) b

end ServiceMux.Bench
