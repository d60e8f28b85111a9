import ServiceMux.Duration
import ServiceMux.Envelope.Frame
/-! The settings of one connection. -/
namespace ServiceMux

structure Config where
  /-- Bounds the opening of the transport, and once more the handshake. -/
  connectTimeout : Duration := .ofSeconds 30
  /-- How long a reply is waited for if the caller does not say; without it, for ever. -/
  replyTimeout : Option Duration := none
  /-- Header included; a longer frame is not sent, and on arrival counts as corruption. -/
  maxFrameSize : Nat := Frame.defaultMax
  /-- Bytes asked of the transport in one read. -/
  readBufferSize : Nat := 8 * 1024
  /-- The highest id handed out before the ids start again at one. -/
  correlationIdLimit : UInt32 := 4294967295
  deriving DecidableEq, Repr

namespace Config
open Text

def localNetwork : Config :=
  { connectTimeout := .ofSeconds 2, replyTimeout := some (.ofSeconds 30) }

def wideNetwork : Config :=
  { connectTimeout := .ofSeconds 60, readBufferSize := 64 * 1024 }

/-- A read asks for at least one byte. -/
def withReadBufferSize (c : Config) (size : Nat) : Config :=
  { c with readBufferSize := max size 1 }

/-- There is at least one id. -/
def withCorrelationIdLimit (c : Config) (limit : UInt32) : Config :=
  { c with correlationIdLimit := max limit 1 }

def inspect (c : Config) : String :=
  record "ConnectionConfig"
    [("connect_timeout", c.connectTimeout.text),
      ("reply_timeout", optional (c.replyTimeout.map Duration.text)),
      ("max_frame_size", toString c.maxFrameSize),
      ("read_buffer_size", toString c.readBufferSize),
      ("correlation_id_limit", toString c.correlationIdLimit.toNat)]

end Config
end ServiceMux
