import ServiceMux.Service.Error
/-! Looking a service up by one of its spellings. -/
namespace ServiceMux.Service

def ofName (name : String) : Except ConfigurationError Service :=
  match all.find? (·.name == name) with
  | some s => .ok s
  | none => .error (.unknownName name)

/-- Only a service's own code finds it, no auxiliary one. -/
def ofWireCode (code : UInt16) : Except ConfigurationError Service :=
  match all.find? (·.wireCode == code) with
  | some s => .ok s
  | none => .error (.unknownCode code)

def ofIndex (index : UInt8) : Except ConfigurationError Service :=
  match all[index.toNat]? with
  | some s => .ok s
  | none => .error (.unknownIndex index)

end ServiceMux.Service
