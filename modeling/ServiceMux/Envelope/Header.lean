import ServiceMux.Envelope.BigEndian
import ServiceMux.Error.Wire
import ServiceMux.Text.Record
/-! The header that opens every frame: twenty bytes, the highest byte of each field first. -/
namespace ServiceMux

structure Header where
  /-- Size of the whole frame, header included. -/
  length : UInt32 := 0
  headerId : UInt16 := 0
  serverId : UInt16 := 0
  instanceId : UInt32 := 0
  correlationId : UInt32 := 0
  /-- Size of the fixed template at the start of the body. -/
  templateLength : UInt16 := 0
  requestReplyId : UInt16 := 0
  deriving DecidableEq, Repr

namespace Header
open BigEndian

def size : Nat := 20

def bytes16 (n : UInt16) : List UInt8 := bytes 2 n.toNat
def bytes32 (n : UInt32) : List UInt8 := bytes 4 n.toNat

def word16 (a b : UInt8) : UInt16 := UInt16.ofNat (value [a, b])
def word32 (a b c d : UInt8) : UInt32 := UInt32.ofNat (value [a, b, c, d])

def encode (h : Header) : List UInt8 :=
  bytes32 h.length ++ bytes16 h.headerId ++ bytes16 h.serverId ++ bytes32 h.instanceId ++
    bytes32 h.correlationId ++ bytes16 h.templateLength ++ bytes16 h.requestReplyId

/-- Writes the header over the front of a buffer that has room for it. -/
def encodeInto (h : Header) (buffer : List UInt8) : Option (List UInt8) :=
  if buffer.length < size then none else some (h.encode ++ buffer.drop size)

def decode : List UInt8 → Except WireError Header
  | l0 :: l1 :: l2 :: l3 :: h0 :: h1 :: s0 :: s1 :: i0 :: i1 :: i2 :: i3 ::
      c0 :: c1 :: c2 :: c3 :: t0 :: t1 :: r0 :: r1 :: _ =>
    .ok ⟨word32 l0 l1 l2 l3, word16 h0 h1, word16 s0 s1, word32 i0 i1 i2 i3,
      word32 c0 c1 c2 c3, word16 t0 t1, word16 r0 r1⟩
  | data => .error (.insufficientData size data.length)

/-- Size of the body that the length field promises. -/
def bodyLength (h : Header) : Nat := h.length.toNat - size

def inspect (h : Header) : String :=
  Text.record "EnvelopeHeader"
    [("length", toString h.length.toNat), ("header_id", toString h.headerId.toNat),
      ("server_id", toString h.serverId.toNat), ("instance", toString h.instanceId.toNat),
      ("correlation_id", toString h.correlationId.toNat),
      ("template_length", toString h.templateLength.toNat),
      ("request_reply_id", toString h.requestReplyId.toNat)]

@[simp] theorem encodeLength (h : Header) : h.encode.length = size := by
  simp [encode, bytes16, bytes32, size]

end Header
end ServiceMux
