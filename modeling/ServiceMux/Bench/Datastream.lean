import ServiceMux.Message
/-! The datastreams exchanged on a bench: a request of which every part is free, and replies for the
ways in which a body can be laid out, or fail to be. -/
namespace ServiceMux.Bench

inductive ReplyType where
  | pong
  /-- A text after its length; what follows it is ignored. -/
  | text
  | raw
  /-- No body that matters. -/
  | status
  | attrs
  | code
  /-- It puts an id of its own on itself. -/
  | shift
  /-- It can be neither read nor written. -/
  | never
  /-- It carries no id at all. -/
  | sticky
  deriving DecidableEq, Repr

namespace ReplyType

def all : List ReplyType := [pong, text, raw, status, attrs, code, shift, never, sticky]

def label : ReplyType → String
  | pong => "Pong"
  | text => "Text"
  | raw => "Raw"
  | status => "Status"
  | attrs => "Attrs"
  | code => "Code"
  | shift => "Shift"
  | never => "Never"
  | sticky => "Sticky"

def ofLabel (label : String) : Option ReplyType := all.find? (·.label == label)

/-- The full name, as errors give it. -/
def name (type : ReplyType) : String := "driver::msg::" ++ type.label

end ReplyType

/-- On a bench no two types have the same full name, so it tells them apart as well. -/
scoped instance : Coe String TypeId := ⟨TypeId.mk⟩

inductive Content where
  /-- With a failure, the body cannot be written. -/
  | request (id template : UInt16) (body : List UInt8) (failure : Option CodecError)
  | pong (value : UInt32)
  | text (words : String)
  | raw (bytes : List UInt8)
  | status
  | attrs (level : UInt16)
  | code (number : UInt32) (words : String)
  | shift (size : UInt32)
  | never
  | sticky
  deriving DecidableEq

structure Datastream where
  correlationId : UInt32
  content : Content
  deriving DecidableEq

def Content.type? : Content → Option ReplyType
  | request .. => none
  | pong _ => some .pong
  | text _ => some .text
  | raw _ => some .raw
  | status => some .status
  | attrs _ => some .attrs
  | code .. => some .code
  | shift _ => some .shift
  | never => some .never
  | sticky => some .sticky

def textBytes (text : String) : List UInt8 := text.toUTF8.toList

def bytesText (bytes : List UInt8) : Except CodecError String :=
  match String.fromUTF8? ⟨bytes.toArray⟩ with
  | some text => .ok text
  | none => .error (.decode "text is not UTF-8")

namespace Content
open Text

def requestReplyId : Content → UInt16
  | request id .. => id
  | pong _ => 0x8001
  | text _ => 0x8002
  | raw _ => 0x8003
  | status => 0x8004
  | attrs _ => 0xF003
  | code .. => 0xF002
  | shift _ => 0x8005
  | never => 0x8006
  | sticky => 0

def templateLength : Content → UInt16
  | request _ template .. => template
  | pong _ => 4
  | attrs _ => 2
  | code .. => 4
  | _ => 0

def encode : Content → Except CodecError (List UInt8)
  | request _ _ body failure =>
    match failure with
    | some e => .error e
    | none => .ok body
  | pong value => .ok (Header.bytes32 value)
  | text words =>
    let bytes := textBytes words
    .ok (BigEndian.bytes 4 bytes.length ++ bytes)
  | raw bytes => .ok bytes
  | status => .ok []
  | attrs level => .ok (Header.bytes16 level)
  | code number words => .ok (Header.bytes32 number ++ textBytes words)
  | shift size => .ok (Header.bytes32 size)
  | never => .error (.encode "never encodes")
  | sticky => .ok []

def parts : Content → List (String × String)
  | request id template body _ =>
    [("id", toString id.toNat), ("template", toString template.toNat),
      ("body", sequence (body.map fun b => toString b.toNat))]
  | pong value => [("value", toString value.toNat)]
  | text words => [("text", quoted words)]
  | raw bytes => [("bytes", sequence (bytes.map fun b => toString b.toNat))]
  | attrs level => [("level", toString level.toNat)]
  | code number words => [("code", toString number.toNat), ("text", quoted words)]
  | shift size => [("size", toString size.toNat)]
  | status | never | sticky => []

end Content

namespace Datastream
open Text

def stamp (id : UInt32) (d : Datastream) : Datastream :=
  match d.content with
  | .sticky => d
  | _ => { d with correlationId := id }

def inspect (d : Datastream) : String :=
  let parts := ("correlation_id", toString d.correlationId.toNat) :: d.content.parts
  match d.content.type? with
  | some .sticky => record "Sticky" []
  | some type => record type.label parts
  | none => record "Request" parts

instance : Message Datastream where
  typeId d :=
    match d.content.type? with
    | some type => type.name
    | none => "driver::msg::Request"
  requestReplyId d := d.content.requestReplyId
  templateLength d := d.content.templateLength
  correlationId d := d.correlationId
  stamp := stamp
  encodeBody d := d.content.encode
  inspect := inspect

end Datastream

namespace ReplyType
open CodecError (require)

/-- The number in the first bytes of a body that is long enough. -/
def leading (width : Nat) (body : List UInt8) : Except CodecError Nat := do
  require body width
  .ok (BigEndian.value (body.take width))

def decodeContent (type : ReplyType) (body : List UInt8) : Except CodecError Content := do
  match type with
  | pong => .ok (.pong (.ofNat (← leading 4 body)))
  | text =>
    let length ← leading 4 body
    require body (4 + length)
    .ok (.text (← bytesText ((body.drop 4).take length)))
  | raw => .ok (.raw body)
  | status => .ok .status
  | attrs => .ok (.attrs (.ofNat (← leading 2 body)))
  | code =>
    let number ← leading 4 body
    .ok (.code (.ofNat number) (← bytesText (body.drop 4)))
  | shift => .ok (.shift (.ofNat body.length))
  | never =>
    if body.isEmpty then .error (.encode "never decodes, empty")
    else .error (.decode "never decodes")
  | sticky => .ok .sticky

/-- The id a reply of this type takes from its header. -/
def ownId (type : ReplyType) (headerId : UInt32) : UInt32 :=
  match type with
  | shift => headerId + 1
  | sticky => 0
  | _ => headerId

def decode (type : ReplyType) (header : Header) (body : List UInt8) :
    Except CodecError Datastream := do
  .ok ⟨type.ownId header.correlationId, ← type.decodeContent body⟩

def prototype (type : ReplyType) : Prototype Datastream :=
  ⟨type.name, type.name, type.decode⟩

end ReplyType

def request (id template : UInt16) (body : List UInt8) (correlationId : UInt32)
    (failure : Option CodecError) : Datastream :=
  ⟨correlationId, .request id template body failure⟩

def typesOf (reply : Reply Datastream) : List String :=
  (ReplyType.all.filter fun type => reply.hasType type.name).map ReplyType.label

end ServiceMux.Bench
