import ServiceMux.Error.Stream
import ServiceMux.HostAddress
import ServiceMux.Deadline
import ServiceMux.Net.SocketAddress
import ServiceMux.SecureChannel
/-! Providers of byte streams. What a provider does with an address, and how it encrypts, is its own
affair; a connection only sees how long dialing takes and how it ends. -/
namespace ServiceMux

inductive Delay where
  | none
  | span (d : Duration)
  | endless
  deriving DecidableEq, Repr

/-- When something is ready that starts now. Without a delay no timer is set. -/
def Delay.ready (now : Instant) : Delay → Option Deadline
  | none => some ⟨some now, ⟨0⟩⟩
  | span d => some (Deadline.set now d)
  | endless => Option.none

structure Dial where
  delay : Delay := .none
  /-- It fails, or it yields a stream, perhaps with a known local address. -/
  result : Except StreamError (Option Net.SocketAddress) := .ok none

abbrev Provider := HostAddress → Option SecureChannel → Dial

namespace Provider

/-- Plain streams, which are never encrypted: a provider that refuses to be told how. -/
def plain (dial : HostAddress → Dial) : Provider := fun address secure =>
  match secure with
  | none => dial address
  | some _ =>
    { result :=
        .error ⟨"Unsupported", some "plain TCP provider cannot negotiate a secure channel"⟩ }

end Provider
end ServiceMux
