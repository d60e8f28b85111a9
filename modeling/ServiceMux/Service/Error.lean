import ServiceMux.Service.Basic
import ServiceMux.Text.Quoted
import ServiceMux.Text.Record
/-! Lookups and registrations that no retry can mend. -/
namespace ServiceMux

inductive ConfigurationError where
  | unknownName (name : String)
  | unknownCode (code : UInt16)
  | unknownIndex (index : UInt8)
  | conflictingPrototype (service : Service) (discriminator : UInt16) (existing attempted : String)
  /-- The shared registry had been read, and takes no new key. -/
  | registryFrozen (service : Service) (discriminator : UInt16) (attempted : String)
  deriving DecidableEq, Repr

namespace ConfigurationError
open Text

def kind : ConfigurationError → String
  | unknownName _ => "UnknownServiceName"
  | unknownCode _ => "UnknownWireCode"
  | unknownIndex _ => "UnknownServiceIndex"
  | conflictingPrototype .. => "ConflictingPrototype"
  | registryFrozen .. => "RegistryFrozen"

def message : ConfigurationError → String
  | unknownName name => "unknown service name: " ++ quoted name
  | unknownCode code => "unknown service wire code: " ++ hexCode code
  | unknownIndex index => "unknown service index: " ++ toString index.toNat
  | conflictingPrototype service discriminator existing attempted =>
    "conflicting reply prototype for " ++ service.name ++ " discriminator " ++
      hexCode discriminator ++ ": " ++ existing ++ " already registered, refused " ++ attempted
  | registryFrozen service discriminator attempted =>
    "reply registry is frozen: cannot register " ++ attempted ++ " for " ++ service.name ++
      " discriminator " ++ hexCode discriminator

def inspect (e : ConfigurationError) : String :=
  record e.kind <| match e with
    | unknownName name => [("name", quoted name)]
    | unknownCode code => [("code", toString code.toNat)]
    | unknownIndex index => [("index", toString index.toNat)]
    | conflictingPrototype service discriminator existing attempted =>
      [("service", service.label), ("discriminator", toString discriminator.toNat),
        ("existing", quoted existing), ("attempted", quoted attempted)]
    | registryFrozen service discriminator attempted =>
      [("service", service.label), ("discriminator", toString discriminator.toNat),
        ("attempted", quoted attempted)]

end ConfigurationError
end ServiceMux
