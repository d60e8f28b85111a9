import ServiceMux.Duration
import ServiceMux.Error.Codec
import ServiceMux.Error.Stream
import ServiceMux.Error.Wire
import ServiceMux.Service.Error
/-! The ways in which opening a connection, a request on it, or a wait for a reply can fail. -/
namespace ServiceMux

inductive HandshakeError where
  | negotiation (reason : String)
  | rejected (returnCode : UInt32) (reason : String)
  deriving DecidableEq, Repr

inductive ServerError where
  | configuration (cause : ConfigurationError)
  /-- The transport could not be opened, or the handshake did not complete. -/
  | connect (reason : String)
  | authentication (returnCode : UInt32) (reason : String)
  /-- A write of this very request failed. -/
  | stream (cause : StreamError)
  /-- An envelope could not be understood, or made. -/
  | protocol (reason : String)
  | codec (cause : CodecError)
  | timeout (correlationId : UInt32) (after : Duration)
  | interrupted (correlationId : UInt32)
  /-- The connection went down while the request was pending. -/
  | connectionLost
  /-- The connection was down already. -/
  | connectionClosed
  | idsExhausted (limit : UInt32)
  deriving DecidableEq, Repr

namespace HandshakeError
open Text

def message : HandshakeError → String
  | negotiation reason => "negotiation failed: " ++ reason
  | rejected returnCode reason =>
    "sign-on rejected (return code " ++ hexNumber returnCode.toNat ++ "): " ++ reason

def inspect : HandshakeError → String
  | negotiation reason => record "Negotiation" [("message", quoted reason)]
  | rejected returnCode reason =>
    record "Rejected" [("return_code", toString returnCode.toNat), ("message", quoted reason)]

def toServerError : HandshakeError → ServerError
  | negotiation reason => .connect reason
  | rejected returnCode reason => .authentication returnCode reason

end HandshakeError

namespace ServerError
open Text

def ofWire (e : WireError) : ServerError := .protocol e.message

def kind : ServerError → String
  | configuration _ => "Configuration"
  | connect _ => "Connect"
  | authentication .. => "Authentication"
  | stream _ => "Io"
  | protocol _ => "Protocol"
  | codec _ => "Codec"
  | timeout .. => "Timeout"
  | interrupted _ => "Interrupted"
  | connectionLost => "ConnectionLost"
  | connectionClosed => "ConnectionClosed"
  | idsExhausted _ => "CorrelationIdsExhausted"

def message : ServerError → String
  | configuration cause => "configuration error: " ++ cause.message
  | connect reason => "connection failed: " ++ reason
  | authentication returnCode reason =>
    "authentication rejected (return code " ++ hexNumber returnCode.toNat ++ "): " ++ reason
  | stream cause => "I/O error: " ++ cause.message
  | protocol reason => "protocol error: " ++ reason
  | codec cause => "request encoding failed: " ++ cause.message
  | timeout correlationId after =>
    "no reply for correlation id " ++ toString correlationId.toNat ++ " within " ++ after.text
  | interrupted correlationId =>
    "wait for correlation id " ++ toString correlationId.toNat ++ " interrupted"
  | connectionLost => "connection lost"
  | connectionClosed => "connection closed"
  | idsExhausted limit => "all " ++ toString limit.toNat ++ " correlation ids are outstanding"

def inspect (e : ServerError) : String :=
  match e with
  | configuration cause => tuple e.kind [cause.inspect]
  | connect reason => record e.kind [("message", quoted reason)]
  | authentication returnCode reason =>
    record e.kind [("return_code", toString returnCode.toNat), ("message", quoted reason)]
  | stream cause => tuple e.kind [cause.inspect]
  | protocol reason => record e.kind [("message", quoted reason)]
  | codec cause => tuple e.kind [cause.inspect]
  | timeout correlationId after =>
    record e.kind [("correlation_id", toString correlationId.toNat), ("after", after.text)]
  | interrupted correlationId =>
    record e.kind [("correlation_id", toString correlationId.toNat)]
  | connectionLost => e.kind
  | connectionClosed => e.kind
  | idsExhausted limit => record e.kind [("limit", toString limit.toNat)]

/-- The messages of the errors behind this one, nearest first. -/
def sources : ServerError → List String
  | configuration cause => [cause.message]
  | stream cause => [cause.message]
  | codec cause => cause.message :: cause.sources
  | _ => []

/-- Whether only the request that met the error is affected. -/
def isCallerLocal : ServerError → Bool
  | timeout .. => true
  | interrupted _ => true
  | codec _ => true
  | idsExhausted _ => true
  | protocol _ => true
  | _ => false

end ServerError
end ServiceMux
