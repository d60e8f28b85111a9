/-! The service jobs of a host, and the names, codes and ports under which each is known. -/
namespace ServiceMux

inductive Service where
  /-- Licensing and code page tables. -/
  | central
  | file
  | print
  /-- Queries, native database and catalog. -/
  | database
  | dataQueue
  | command
  | signOn
  | hostConnection
  | recordAccess
  deriving DecidableEq, Repr

namespace Service

/-- Every service, in the order of its service constant. -/
def all : List Service :=
  [file, print, command, dataQueue, database, recordAccess, central, signOn, hostConnection]

/-- The name by which ports are mapped; messages and logs show a service by it. -/
def name : Service → String
  | central => "as-central"
  | file => "as-file"
  | print => "as-netprt"
  | database => "as-database"
  | dataQueue => "as-dtaq"
  | command => "as-rmtcmd"
  | signOn => "as-signon"
  | hostConnection => "as-hostcnn"
  | recordAccess => "as-ddm"

def label : Service → String
  | central => "Central"
  | file => "File"
  | print => "Print"
  | database => "Database"
  | dataQueue => "DataQueue"
  | command => "Command"
  | signOn => "SignOn"
  | hostConnection => "HostConnection"
  | recordAccess => "RecordAccess"

/-- The server id in the header of every frame of this service. -/
def wireCode : Service → UInt16
  | central => 0xE000
  | file => 0xE002
  | print => 0xE003
  | database => 0xE004
  | dataQueue => 0xE007
  | command => 0xE008
  | signOn => 0xE009
  | hostConnection => 0xE00B
  | recordAccess => 0xD000

/-- The service constant: the place in `all`. -/
def index : Service → Nat
  | file => 0
  | print => 1
  | command => 2
  | dataQueue => 3
  | database => 4
  | recordAccess => 5
  | central => 6
  | signOn => 7
  | hostConnection => 8

def port : Service → UInt16
  | file => 8473
  | print => 8474
  | command => 8475
  | dataQueue => 8472
  | database => 8471
  | recordAccess => 446
  | central => 8470
  | signOn => 8476
  | hostConnection => 8480

def securePort : Service → UInt16
  | file => 9473
  | print => 9474
  | command => 9475
  | dataQueue => 9472
  | database => 9471
  | recordAccess => 448
  | central => 9470
  | signOn => 9476
  | hostConnection => 9480

/-- Server ids under which a service answers beside its own: the native database and the catalog
belong to the database job. -/
def auxiliaryCodes : Service → List UInt16
  | database => [0xE005, 0xE006]
  | _ => []

/-- Whether an inbound frame with this server id belongs to the service. -/
def accepts (s : Service) (code : UInt16) : Bool :=
  code == s.wireCode || s.auxiliaryCodes.contains code

theorem acceptsOwnCode (s : Service) : s.accepts s.wireCode = true := by simp [accepts]

/-- The place in the order of services, which is not that of their constants. -/
def rank : Service → Nat
  | central => 0
  | file => 1
  | print => 2
  | database => 3
  | dataQueue => 4
  | command => 5
  | signOn => 6
  | hostConnection => 7
  | recordAccess => 8

def sort (services : List Service) : List Service :=
  services.mergeSort fun a b => a.rank ≤ b.rank

end Service
end ServiceMux
