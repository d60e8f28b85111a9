import ServiceMux.Connection.Basic
/-! Leases: a connection lives as long as somebody holds one. -/
namespace ServiceMux.Connection
open Text
variable {μ : Type}

/-- One lease more. A connection that is down, or that nobody holds, is not revived. -/
def attach (c : Connection μ) : Except ServerError (Connection μ) :=
  if c.references = 0 || !c.isLive then .error .connectionClosed
  else .ok { c with references := c.references + 1 }

/-- One lease less; the last one closes the connection. -/
def release (c : Connection μ) : Connection μ :=
  let last := c.references = 1
  let c := { c with references := c.references - 1 }
  if last then c.close .released else c

def inspect (c : Connection μ) : String :=
  record "ServiceConnection"
    [("service", c.service.label), ("connection_id", toString c.id.toNat),
      ("state", c.lifecycle.label), ("references", toString c.references)]

def inspectLease (c : Connection μ) : String := tuple "ConnectionLease" [c.inspect]

end ServiceMux.Connection
