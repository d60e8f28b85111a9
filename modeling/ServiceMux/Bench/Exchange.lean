import ServiceMux.Bench.Datastream
import ServiceMux.Handshake
/-! The opening exchanges of a bench: which requests are made, and what is held against the
replies. -/
namespace ServiceMux.Bench

inductive AttributeCheck where
  | anything
  | level (least : Nat)
  | refuse (e : HandshakeError)
  deriving DecidableEq, Repr

def AttributeCheck.judge (check : AttributeCheck) (reply : Reply Datastream) :
    Except HandshakeError Unit :=
  match check with
  | anything => .ok ()
  | refuse e => .error e
  | level least =>
    match reply.message.content with
    | .attrs found =>
      if least ≤ found.toNat then .ok ()
      else .error (.negotiation ("server level " ++ toString found.toNat ++ " too old"))
    | _ => .error (.negotiation "unexpected exchange attributes reply")

/-- The job is named by the reply to the start of the server, unless that is refused. -/
def judgeStart (refusal : Option HandshakeError) (reply : Reply Datastream) :
    Except HandshakeError (Option String) :=
  match refusal, reply.message.content with
  | some e, _ => .error e
  | none, .status => .ok none
  | none, .code number words =>
    if number = 0 then .ok (some words) else .error (.rejected number words)
  | none, _ => .error (.negotiation "unexpected start server reply")

/-- The request with user and password at the end of its body. -/
def withCredentials (d : Datastream) (c : Credentials) : Datastream :=
  match d.content with
  | .request id template body failure =>
    { d with
      content :=
        .request id template (body ++ textBytes c.user ++ [0] ++ textBytes c.password) failure }
  | _ => d

inductive Exchange where
  | full (prototypes : List (UInt16 × ReplyType)) (attributes : Datastream)
      (check : AttributeCheck) (start : Option Datastream) (refusal : Option HandshakeError)
  | bare (attributes : Datastream) (check : AttributeCheck)
  /-- The start of the server as well, whoever the user is, and whatever the reply. -/
  | started (attributes : Datastream) (check : AttributeCheck) (start : Option Datastream)
  | fixed (outcome : Except ServerError (Option String))

def Exchange.handshake : Exchange → Handshake Datastream
  | full prototypes attributes check start refusal =>
    .exchange
      { prototypes := prototypes.map fun (discriminator, type) => (discriminator, type.prototype)
        exchangeAttributes := attributes
        checkAttributes := check.judge
        startServer := fun credentials => start.map (withCredentials · credentials)
        checkStartServer := judgeStart refusal }
  | bare attributes check =>
    .exchange { exchangeAttributes := attributes, checkAttributes := check.judge }
  | started attributes check start =>
    .exchange
      { exchangeAttributes := attributes
        checkAttributes := check.judge
        startServer := fun _ => start }
  | fixed outcome => .settled outcome

end ServiceMux.Bench
