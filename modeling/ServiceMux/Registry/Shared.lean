import ServiceMux.Registry.Basic
/-! The registry that connections share when they are given none of their own. It takes
registrations until it is first read, and stays as it was then. -/
namespace ServiceMux
variable {μ : Type}

structure SharedRegistry (μ : Type) where
  collected : Registry μ := .empty
  frozen : Option (Registry μ) := none

namespace SharedRegistry

def register (s : SharedRegistry μ) (service : Service) (discriminator : UInt16)
    (prototype : Prototype μ) : Except ConfigurationError (SharedRegistry μ) :=
  match s.frozen with
  | none =>
    match s.collected.register service discriminator prototype with
    | .ok collected => .ok { s with collected }
    | .error e => .error e
  | some registry =>
    match registry.lookup service discriminator with
    | none => .error (.registryFrozen service discriminator prototype.typeName)
    | some existing =>
      if existing.same prototype then .ok s
      else .error
        (.conflictingPrototype service discriminator existing.typeName prototype.typeName)

/-- The registry as every reader sees it; the first one to read freezes it. -/
def read (s : SharedRegistry μ) : Registry μ × SharedRegistry μ :=
  match s.frozen with
  | some registry => (registry, s)
  | none => (s.collected, ⟨.empty, some s.collected⟩)

def isFrozen (s : SharedRegistry μ) : Bool := s.frozen.isSome

end SharedRegistry
end ServiceMux
