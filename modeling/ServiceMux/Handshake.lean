import ServiceMux.Connection.Wait
import ServiceMux.Credentials
/-! The opening exchange on a new connection: attributes first, then, for a service that
authenticates its job, the start of the server. -/
namespace ServiceMux
variable {μ : Type}

/-- What a service brings to the exchange: its requests, and its judgement of the replies. -/
structure Hooks (μ : Type) where
  /-- How to read the replies of the exchange. -/
  prototypes : List (UInt16 × Prototype μ) := []
  exchangeAttributes : μ
  checkAttributes : Reply μ → Except HandshakeError Unit
  /-- The request that uses the credentials, if there is one. -/
  startServer : Credentials → Option μ := fun _ => none
  /-- The job's identifier, if the host reports one. -/
  checkStartServer : Reply μ → Except HandshakeError (Option String) := fun _ => .ok none

inductive Handshake (μ : Type) where
  | exchange (hooks : Hooks μ)
  /-- Nothing is exchanged; the outcome is known. -/
  | settled (outcome : Except ServerError (Option String))

def Handshake.prototypes : Handshake μ → List (UInt16 × Prototype μ)
  | exchange hooks => hooks.prototypes
  | settled _ => []

inductive Stage where
  | attributes
  | start
  deriving DecidableEq, Repr

/-- The number of the call that makes the exchange. -/
def Stage.call : Stage → CallId
  | attributes => 0
  | start => 1

/-- How far a negotiation got: to an exchange under way, or to its end. -/
inductive Negotiation where
  | under (stage : Stage)
  | over (outcome : Except ServerError (Option String))

namespace Hooks
variable [Message μ]

def ask (c : Connection μ) (stage : Stage) (request : μ) : Connection μ × Negotiation :=
  let begun := c.sendAndReceive stage.call request
  match begun.outcome with
  | some (.error e) => (begun.connection, .over (.error e))
  | _ => (begun.connection, .under stage)

def start (hooks : Hooks μ) (c : Connection μ) : Connection μ × Negotiation :=
  ask c .attributes hooks.exchangeAttributes

/-- Judges the reply of an exchange. Attributes that were accepted are kept on the connection, and
only then are the credentials used. -/
def judge (hooks : Hooks μ) (credentials : Option Credentials) (c : Connection μ) (stage : Stage)
    (reply : Reply μ) : Connection μ × Negotiation :=
  match stage with
  | .attributes =>
    match hooks.checkAttributes reply with
    | .error e => (c, .over (.error e.toServerError))
    | .ok () =>
      let c := { c with attributes := some reply }
      match credentials.bind hooks.startServer with
      | none => (c, .over (.ok none))
      | some request => ask c .start request
  | .start =>
    match hooks.checkStartServer reply with
    | .error e => (c, .over (.error e.toServerError))
    | .ok job => (c, .over (.ok job))

/-- Lets the exchange under way run as far as it gets, and goes on from its outcome. -/
def poll (hooks : Hooks μ) (credentials : Option Credentials) (c : Connection μ) (stage : Stage)
    (now : Instant) (attempt : WriteAttempt) : Connection μ × Negotiation :=
  match c.poll stage.call now attempt with
  | (c, some (.ok (.reply reply))) => hooks.judge credentials c stage reply
  | (c, some (.error e)) => (c, .over (.error e))
  | (c, _) => (c, .under stage)

end Hooks
end ServiceMux
