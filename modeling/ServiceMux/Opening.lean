import ServiceMux.Connection.Dispatch
import ServiceMux.Connection.Lease
import ServiceMux.Handshake
import ServiceMux.Registry.Shared
import ServiceMux.Transport.Provider
/-! Opening a connection: a stream is dialed, the reader starts, the handshake runs. It comes to a
connection with one lease, or to nothing that is still open. -/
namespace ServiceMux
variable {μ : Type}

structure Opening (μ : Type) where
  service : Service
  address : Option HostAddress := none
  credentials : Option Credentials := none
  secure : Option SecureChannel := none
  /-- Without it, the shared registry. -/
  registry : Option (Registry μ) := none
  config : Config := {}
  handshake : Handshake μ

namespace Opening

/-- Until `ready` the stream is being dialed, and until `limit` it is waited for. -/
structure Dialing where
  address : HostAddress
  ready : Option Deadline
  result : Except StreamError (Option Net.SocketAddress)
  limit : Deadline

/-- A handshake under way on a connection that nobody else has yet. -/
structure Negotiating (μ : Type) where
  address : HostAddress
  connection : Connection μ
  stage : Stage
  limit : Deadline

/-- How far an opening that has its stream got. -/
inductive Progress (μ : Type) where
  | going (n : Negotiating μ)
  /-- The lease is the caller's now. -/
  | opened (c : Connection μ)
  /-- The connection that was half open is closed and without a lease. -/
  | failed (e : ServerError) (c : Connection μ)

/-- Unless the host or the configuration refused, it is the connecting that failed. -/
def asConnectFailure : ServerError → ServerError
  | .authentication code reason => .authentication code reason
  | .connect reason => .connect reason
  | .configuration cause => .configuration cause
  | e => .connect ("handshake failed: " ++ e.message)

def dial (o : Opening μ) (provider : Provider) (now : Instant) : Except ServerError Dialing :=
  match o.address with
  | none => .error (.connect ("no address configured for " ++ o.service.name))
  | some address =>
    let dial := provider address o.secure
    .ok ⟨address, dial.delay.ready now, dial.result, Deadline.set now o.config.connectTimeout⟩

/-- How dialing ended, if it has: with a stream or a refusal, or else by running out of time. -/
def dialed (o : Opening μ) (d : Dialing) (now : Instant) :
    Option (Except ServerError (Option Net.SocketAddress)) :=
  if d.ready.any (·.isDue now) then
    match d.result with
    | .ok localAddress => some (.ok localAddress)
    | .error e =>
      some (.error (.connect ("cannot reach " ++ d.address.render ++ ": " ++ e.message)))
  else if d.limit.isDue now then
    some (.error (.connect
      ("connect to " ++ d.address.render ++ " timed out after " ++ o.config.connectTimeout.text)))
  else none

/-- The half-open connection is taken down and its lease released. -/
def fail (c : Connection μ) (e : ServerError) : Progress μ :=
  .failed e (c.close .forced).release

def conclude (address : HostAddress) (limit : Deadline) (c : Connection μ) :
    Negotiation → Progress μ
  | .under stage => .going ⟨address, c, stage, limit⟩
  | .over (.error e) => fail c (asConnectFailure e)
  | .over (.ok none) => .opened c
  | .over (.ok (some job)) => .opened { c with job }

variable [Message μ]

/-- The stream is there: the connection is established over it and the handshake begins. -/
def establish (o : Opening μ) (address : HostAddress) (localAddress : Option Net.SocketAddress)
    (id : UInt32) (registry : Registry μ) (now : Instant) : Progress μ :=
  let c :=
    { Connection.establish id o.service registry o.config with peer := some address, localAddress }
  let c := o.handshake.prototypes.foldl (fun c (d, p) => c.addPrototype d p) c
  let limit := Deadline.set now o.config.connectTimeout
  match o.handshake with
  | .settled outcome => conclude address limit c (.over outcome)
  | .exchange hooks =>
    let (c, negotiation) := hooks.start c
    conclude address limit c negotiation

/-- The stream is there. Only now is a registry needed; without one of its own the opening reads
the shared one. -/
def connect (o : Opening μ) (address : HostAddress) (localAddress : Option Net.SocketAddress)
    (id : UInt32) (shared : SharedRegistry μ) (now : Instant) : Progress μ × SharedRegistry μ :=
  match o.registry with
  | some registry => (o.establish address localAddress id registry now, shared)
  | none =>
    let (registry, shared) := shared.read
    (o.establish address localAddress id registry now, shared)

def poll (o : Opening μ) (n : Negotiating μ) (now : Instant) (attempt : WriteAttempt) :
    Progress μ :=
  match o.handshake with
  | .settled outcome => conclude n.address n.limit n.connection (.over outcome)
  | .exchange hooks =>
    let (c, negotiation) := hooks.poll o.credentials n.connection n.stage now attempt
    conclude n.address n.limit c negotiation

omit [Message μ] in
/-- The handshake has run out of time: the exchange under way is given up, and all with it. -/
def expire (o : Opening μ) (n : Negotiating μ) : Progress μ :=
  fail (n.connection.abandon n.stage.call)
    (.connect
      ("handshake with " ++ n.address.render ++ " timed out after " ++
        o.config.connectTimeout.text))

omit [Message μ] in
/-- Giving the opening up in the middle of its handshake gives up the connection too. -/
def Negotiating.abandon (n : Negotiating μ) : Connection μ :=
  (n.connection.abandon n.stage.call).release

end Opening
end ServiceMux
