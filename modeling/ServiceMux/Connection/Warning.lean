import ServiceMux.Error.Server
/-! What a connection reports while it works: why it went down, and frames it could not use. -/
namespace ServiceMux

inductive CloseReason where
  | released
  | forced
  | endOfStream
  | readFailed
  | writeFailed
  /-- A write was given up with part of a frame on the wire. -/
  | writeAbandoned
  /-- A length field cannot be trusted. -/
  | corrupted
  deriving DecidableEq, Repr

def CloseReason.text : CloseReason → String
  | released => "last lease released"
  | forced => "forced disconnect"
  | endOfStream => "end of stream"
  | readFailed => "read failed"
  | writeFailed => "write failed"
  | writeAbandoned => "write abandoned mid-frame"
  | corrupted => "corrupted frame length"

inductive Warning where
  /-- The connection goes down while this many callers wait. -/
  | disconnecting (service : Service) (waiting : Nat) (reason : CloseReason)
  | writeFailed (service : Service) (cause : StreamError)
  | readFailed (cause : StreamError)
  | framingLost (cause : WireError)
  | foreignFrame (correlationId : UInt32) (serverId : UInt16)
  | unregistered (correlationId : UInt32) (discriminator : UInt16)
  | undecodable (correlationId : UInt32) (discriminator : UInt16) (cause : CodecError)
  deriving DecidableEq, Repr

namespace Warning

inductive Value where
  | number (n : Nat)
  | text (s : String)
  deriving DecidableEq, Repr

def message : Warning → String
  | disconnecting .. => "disconnecting"
  | writeFailed .. => "write failed"
  | readFailed _ => "read failed"
  | framingLost _ => "unrecoverable framing error"
  | foreignFrame .. => "frame for another service skipped"
  | unregistered .. => "no reply prototype registered, frame skipped"
  | undecodable .. => "reply decode failed"

def fields : Warning → List (String × Value)
  | disconnecting service waiting reason =>
    [("service", .text service.name), ("pending", .number waiting), ("reason", .text reason.text)]
  | writeFailed service cause =>
    [("service", .text service.name), ("error", .text cause.message)]
  | readFailed cause => [("error", .text cause.message)]
  | framingLost cause => [("error", .text cause.message)]
  | foreignFrame correlationId serverId =>
    [("correlation_id", .number correlationId.toNat), ("server_id", .number serverId.toNat)]
  | unregistered correlationId discriminator =>
    [("correlation_id", .number correlationId.toNat),
      ("discriminator", .number discriminator.toNat)]
  | undecodable correlationId discriminator cause =>
    [("correlation_id", .number correlationId.toNat),
      ("discriminator", .number discriminator.toNat), ("error", .text cause.message)]

end Warning

/-- Why an inbound frame yields no reply. -/
inductive RoutingFault where
  | foreign (serverId expected : UInt16)
  | unregistered (discriminator : UInt16)
  | undecodable (typeName : String) (discriminator : UInt16) (cause : CodecError)
  deriving DecidableEq, Repr

namespace RoutingFault
open Text

def message : RoutingFault → String
  | foreign serverId expected =>
    "reply carries server id " ++ hexCode serverId ++ ", expected " ++ hexCode expected
  | unregistered discriminator => "no reply prototype for discriminator " ++ hexCode discriminator
  | undecodable typeName discriminator cause =>
    "cannot decode " ++ typeName ++ " for discriminator " ++ hexCode discriminator ++ ": " ++
      cause.message

/-- What the caller waiting for that frame is told. -/
def toServerError (fault : RoutingFault) : ServerError := .protocol fault.message

end RoutingFault
end ServiceMux
