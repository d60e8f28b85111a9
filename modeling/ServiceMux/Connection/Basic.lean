import ServiceMux.Config
import ServiceMux.Connection.Warning
import ServiceMux.Deadline
import ServiceMux.HostAddress
import ServiceMux.Net.SocketAddress
import ServiceMux.PendingTable
import ServiceMux.Registry.Basic
/-! One connection to one service job, shared by any number of callers.

Frames go out one at a time: callers stand in line for the write half, and whoever is first in line
has it. The reader takes bytes in and hands each reply to the caller who waits for its id. -/
namespace ServiceMux

/-- Calls on a connection are told apart by number. -/
abbrev CallId := Nat

inductive Lifecycle where
  | live
  /-- Going down; those who wait are being told. -/
  | closing
  | closed
  deriving DecidableEq, Repr

def Lifecycle.label : Lifecycle → String
  | live => "Open"
  | closing => "Closing"
  | closed => "Closed"

/-- The counts are exact, without end: counted in 64 bits they would be the same, as 2^64 of anything
is out of reach of a run. -/
structure Metrics where
  requestsSent : Nat := 0
  repliesDelivered : Nat := 0
  /-- Replies nobody waited for. -/
  repliesDiscarded : Nat := 0
  /-- Inbound frames that could not be used, and a stream that could not be followed. -/
  protocolErrors : Nat := 0
  bytesWritten : Nat := 0
  bytesRead : Nat := 0
  closes : Nat := 0
  deriving DecidableEq, Repr

/-- A caller's side of one registration: empty until the wait is decided. -/
structure Inbox (μ : Type) where
  registration : Registration
  result : Option (Except ServerError (Reply μ))

/-- What a call is after once its frame is out. -/
inductive Errand where
  | handOut (registration : Registration)
  /-- The reply is waited for, perhaps for so long only. -/
  | await (registration : Registration) (within : Option Duration)
  | discard (registration : Registration)
  /-- No reply is expected; the id is told. -/
  | numbered (id : UInt32)
  | plain
  deriving DecidableEq, Repr

namespace Errand

def registration? : Errand → Option Registration
  | handOut r | await r _ | discard r => some r
  | numbered _ | plain => none

/-- The registration whose inbox the call holds. -/
def inbox? : Errand → Option Registration
  | handOut r | await r _ => some r
  | discard _ | numbered _ | plain => none

end Errand

/-- A place in the line for the write half. -/
inductive Turn where
  | write (call : CallId) (frame : List UInt8) (errand : Errand)
  /-- The reader, on its way out, gives the write half up. -/
  | release
  deriving DecidableEq, Repr

def Turn.call? : Turn → Option CallId
  | write call _ _ => some call
  | release => none

def Turn.inbox? : Turn → Option Registration
  | write _ _ errand => errand.inbox?
  | release => none

structure Wait where
  call : CallId
  registration : Registration
  deadline : Option Deadline
  deriving DecidableEq, Repr

inductive Reader where
  /-- With the bytes of a frame that is not complete yet. -/
  | reading (buffer : List UInt8)
  /-- Standing in line to give the write half up. -/
  | leaving
  /-- The read half is gone. -/
  | stopped
  deriving DecidableEq, Repr

structure Connection (μ : Type) where
  id : UInt32
  service : Service
  config : Config
  registry : Registry μ
  peer : Option HostAddress := none
  localAddress : Option Net.SocketAddress := none
  /-- Prototypes of this connection alone, the latest first. -/
  instancePrototypes : List (UInt16 × Prototype μ) := []
  lifecycle : Lifecycle := .live
  /-- Told to every task of the connection when it goes down. -/
  shutdown : Bool := false
  /-- How many leases are out, counted without end like the metrics. -/
  references : Nat := 1
  table : PendingTable
  /-- Of the filled ones, those filled earlier come first. -/
  inboxes : List (Inbox μ) := []
  waits : List Wait := []
  line : List Turn := []
  /-- How much of its frame the first in line has handed over; nothing before it looked. -/
  progress : Option Nat := none
  /-- Whether the write half is still held. -/
  writeHalf : Bool := true
  /-- All bytes the transport took. -/
  written : List UInt8 := []
  reader : Reader := .reading []
  metrics : Metrics := {}
  /-- The job's identifier, empty until known. -/
  job : String := ""
  attributes : Option (Reply μ) := none
  replyTimeout : Option Duration
  /-- All that was reported. -/
  warnings : List Warning := []

namespace Connection
variable {μ : Type}

/-- A connection over a new stream, with one lease on it. -/
def establish (id : UInt32) (service : Service) (registry : Registry μ) (config : Config) :
    Connection μ :=
  { id, service, config, registry
    table := .ofLimit config.correlationIdLimit
    replyTimeout := config.replyTimeout }

def isLive (c : Connection μ) : Bool := c.lifecycle == .live

def warn (c : Connection μ) (w : Warning) : Connection μ :=
  { c with warnings := c.warnings ++ [w] }

/-- Both halves of the stream have been let go. -/
def hasLetGo (c : Connection μ) : Bool := !c.writeHalf && c.reader == .stopped

def inboxOf (c : Connection μ) (r : Registration) : Option (Inbox μ) :=
  c.inboxes.find? (·.registration.ticket == r.ticket)

/-- Puts a result into the empty inbox with this ticket, and tells whether there was one. The inbox
goes to the end, behind those that were filled before. -/
def deliver (c : Connection μ) (ticket : Nat) (result : Except ServerError (Reply μ)) :
    Connection μ × Bool :=
  let awaits (i : Inbox μ) : Bool := i.registration.ticket == ticket && i.result.isNone
  match c.inboxes.find? awaits with
  | some i =>
    let others := c.inboxes.filter fun i => !awaits i
    ({ c with inboxes := others ++ [⟨i.registration, some result⟩] }, true)
  | none => (c, false)

/-- Takes back a registration, if its entry is still there. -/
def withdraw (c : Connection μ) (r : Registration) : Connection μ :=
  { c with table := (c.table.cancel r).2 }

/-- Lets a pending reply go: its registration is taken back, and its inbox is no more. -/
def dropInbox (c : Connection μ) (r : Registration) : Connection μ :=
  { c.withdraw r with inboxes := c.inboxes.filter (·.registration.ticket != r.ticket) }

def stepAside (c : Connection μ) : Connection μ :=
  { c with line := c.line.tail, progress := none }

/-- Takes the connection down, once. Whoever has the write half at this moment lets it go later. -/
def close (c : Connection μ) (reason : CloseReason) : Connection μ :=
  if c.isLive then
    let waiting := c.table.awaited
    let c := { c with lifecycle := .closing, table := c.table.close }
    let c :=
      if reason = .released then c else c.warn (.disconnecting c.service waiting.length reason)
    let c := waiting.foldl (fun c ticket => (c.deliver ticket (.error .connectionLost)).1) c
    let c := { c with shutdown := true, writeHalf := c.writeHalf && !c.line.isEmpty }
    { c with
      metrics := { c.metrics with closes := c.metrics.closes + 1 }
      lifecycle := .closed }
  else c

/-- The connection's own prototypes come before those of the registry. -/
def prototypeFor (c : Connection μ) (discriminator : UInt16) : Option (Prototype μ) :=
  match c.instancePrototypes.lookup discriminator with
  | some p => some p
  | none => c.registry.lookup c.service discriminator

def addPrototype (c : Connection μ) (discriminator : UInt16) (p : Prototype μ) : Connection μ :=
  { c with instancePrototypes := (discriminator, p) :: c.instancePrototypes }

def clearPrototypes (c : Connection μ) : Connection μ := { c with instancePrototypes := [] }

/-- A free id, which stays free. -/
def newCorrelationId (c : Connection μ) : Except ServerError (UInt32 × Connection μ) :=
  match c.table.allocate with
  | .ok (id, table) => .ok (id, { c with table })
  | .error e => .error e

end Connection
end ServiceMux
