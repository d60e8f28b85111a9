import ServiceMux.Message
/-! Which prototype reads the replies of a service: one for each discriminator. -/
namespace ServiceMux
variable {μ : Type}

/-- The registrations that took effect, in their order; no key comes twice. -/
structure Registry (μ : Type) where
  entries : List ((Service × UInt16) × Prototype μ)

namespace Registry

def empty : Registry μ := ⟨[]⟩

def lookup (r : Registry μ) (service : Service) (discriminator : UInt16) :
    Option (Prototype μ) :=
  r.entries.lookup (service, discriminator)

def size (r : Registry μ) : Nat := r.entries.length

/-- The first prototype registered for a key keeps it; naming the same one again changes nothing,
and another one is refused. -/
def register (r : Registry μ) (service : Service) (discriminator : UInt16)
    (prototype : Prototype μ) : Except ConfigurationError (Registry μ) :=
  match r.lookup service discriminator with
  | some existing =>
    if existing.same prototype then .ok r
    else .error
      (.conflictingPrototype service discriminator existing.typeName prototype.typeName)
  | none => .ok ⟨r.entries ++ [((service, discriminator), prototype)]⟩

end Registry
end ServiceMux
