import ServiceMux.Text.Quoted
import ServiceMux.Text.Record
/-! The user profile and password presented when a job is started. -/
namespace ServiceMux

structure Credentials where
  user : String
  password : String
  deriving DecidableEq

namespace Credentials
open Text

/-- The text hides the password, whatever it is. -/
def inspect (c : Credentials) : String :=
  record "Credentials" [("user", quoted c.user), ("password", quoted "<redacted>")]

end Credentials
end ServiceMux
