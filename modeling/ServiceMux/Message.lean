import ServiceMux.Envelope.Frame
import ServiceMux.Error.Server
/-! Messages and replies. A connection knows of a message only what its envelope needs; the body is
the message's own affair. -/
namespace ServiceMux

/-- What tells the types of messages apart: no two types share one, though they may go by the same
name. -/
structure TypeId where
  token : String
  deriving DecidableEq, Repr

class Message (μ : Type) where
  typeId : μ → TypeId
  requestReplyId : μ → UInt16
  templateLength : μ → UInt16
  correlationId : μ → UInt32
  /-- The message with another id on it, if it carries one. -/
  stamp : UInt32 → μ → μ
  encodeBody : μ → Except CodecError (List UInt8)
  inspect : μ → String

/-- A decoded message, with the header of the frame that carried it. -/
structure Reply (μ : Type) where
  header : Header
  message : μ
  deriving DecidableEq

structure Prototype (μ : Type) where
  typeId : TypeId
  /-- For those who read of it; it decides nothing. -/
  typeName : String
  decodeBody : Header → List UInt8 → Except CodecError μ

variable {μ : Type}

namespace Message
variable [Message μ]

/-- The frame that carries a message to the service with this server id. -/
def frame (serverId : UInt16) (message : μ) (max : Nat) : Except ServerError (List UInt8) :=
  match encodeBody message with
  | .error e => .error (.codec e)
  | .ok body =>
    let header : Header :=
      { serverId
        correlationId := correlationId message
        templateLength := templateLength message
        requestReplyId := requestReplyId message }
    match Frame.encode header body max with
    | .error e => .error (.ofWire e)
    | .ok bytes => .ok bytes

/-- Why a message, as it is stamped, goes into no frame. -/
inductive Unsendable (max : Nat) (stamped : μ) : ServerError → Prop where
  | codec {cause : CodecError} (failed : encodeBody stamped = .error cause) :
      Unsendable max stamped (.codec cause)
  | tooLong {body : List UInt8} (encoded : encodeBody stamped = .ok body)
      (long : min max Frame.lengthLimit < Header.size + body.length) :
      Unsendable max stamped
        (.protocol (WireError.frameTooLarge (Header.size + body.length) max).message)

theorem unsendableIff {serverId : UInt16} {stamped : μ} {max : Nat} {e : ServerError} :
    frame serverId stamped max = .error e ↔ Unsendable max stamped e := by
  unfold frame Frame.encode
  cases encoded : encodeBody stamped with
  | error cause =>
    dsimp only
    constructor
    · rintro ⟨⟩
      exact .codec encoded
    · intro failed
      cases failed with
      | codec failed =>
        rw [encoded] at failed
        cases failed
        rfl
      | tooLong other =>
        rw [encoded] at other
        contradiction
  | ok body =>
    dsimp only
    constructor
    · intro failed
      split at failed
      · rename_i large
        split at large
        · cases large
          cases failed
          exact .tooLong encoded (by omega)
        · contradiction
      · contradiction
    · intro failed
      cases failed with
      | codec failed =>
        rw [encoded] at failed
        contradiction
      | tooLong other long =>
        rw [encoded] at other
        cases other
        rw [if_pos (by omega)]
        rfl

end Message

namespace Reply
variable [Message μ]

def correlationId (r : Reply μ) : UInt32 := Message.correlationId r.message

/-- The type in the envelope, which the message need not agree with. -/
def requestReplyId (r : Reply μ) : UInt16 := r.header.requestReplyId

def hasType (r : Reply μ) (type : TypeId) : Bool := Message.typeId r.message == type

/-- The message if it is of that type, else the reply itself. -/
def take (r : Reply μ) (type : TypeId) : Except (Reply μ) μ :=
  if r.hasType type then .ok r.message else .error r

def stamp (id : UInt32) (r : Reply μ) : Reply μ :=
  ⟨{ r.header with correlationId := id }, Message.stamp id r.message⟩

end Reply

namespace Reply
open Text

def inspect [Message μ] (r : Reply μ) : String :=
  record "Reply" [("header", r.header.inspect), ("message", Message.inspect r.message)]

end Reply

namespace Prototype
open Text

/-- Two prototypes are the same when they read the same type, whatever it is called. -/
def same (a b : Prototype μ) : Bool := a.typeId == b.typeId

@[simp] theorem sameIff {a b : Prototype μ} : a.same b = true ↔ a.typeId = b.typeId := beq_iff_eq

def decode (p : Prototype μ) (header : Header) (body : List UInt8) :
    Except CodecError (Reply μ) :=
  match p.decodeBody header body with
  | .ok message => .ok ⟨header, message⟩
  | .error e => .error e

def inspect (p : Prototype μ) : String := tuple "ReplyPrototype" [quoted p.typeName]

end Prototype
end ServiceMux
