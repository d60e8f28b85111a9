import ServiceMux.Text.Quoted
import ServiceMux.Text.Record
/-! Failures of the byte stream below a connection. -/
namespace ServiceMux

/-- The class of a failure, and its own text if it came with one. -/
structure StreamError where
  kind : String
  detail : Option String := none
  deriving DecidableEq, Repr

namespace StreamError
open Text

/-- What is said of a failure without a text of its own. -/
def standardTexts : List (String × String) :=
  [("AddrInUse", "address in use"),
    ("AddrNotAvailable", "address not available"),
    ("AlreadyExists", "entity already exists"),
    ("ArgumentListTooLong", "argument list too long"),
    ("BrokenPipe", "broken pipe"),
    ("ConnectionAborted", "connection aborted"),
    ("ConnectionRefused", "connection refused"),
    ("ConnectionReset", "connection reset"),
    ("CrossesDevices", "cross-device link or rename"),
    ("Deadlock", "deadlock"),
    ("DirectoryNotEmpty", "directory not empty"),
    ("ExecutableFileBusy", "executable file busy"),
    ("FileTooLarge", "file too large"),
    ("FilesystemLoop", "filesystem loop or indirection limit (e.g. symlink loop)"),
    ("HostUnreachable", "host unreachable"),
    ("InProgress", "in progress"),
    ("Interrupted", "operation interrupted"),
    ("InvalidData", "invalid data"),
    ("InvalidFilename", "invalid filename"),
    ("InvalidInput", "invalid input parameter"),
    ("IsADirectory", "is a directory"),
    ("NetworkDown", "network down"),
    ("NetworkUnreachable", "network unreachable"),
    ("NotADirectory", "not a directory"),
    ("NotConnected", "not connected"),
    ("NotFound", "entity not found"),
    ("NotSeekable", "seek on unseekable file"),
    ("Other", "other error"),
    ("OutOfMemory", "out of memory"),
    ("PermissionDenied", "permission denied"),
    ("QuotaExceeded", "quota exceeded"),
    ("ReadOnlyFilesystem", "read-only filesystem or storage medium"),
    ("ResourceBusy", "resource busy"),
    ("StaleNetworkFileHandle", "stale network file handle"),
    ("StorageFull", "no storage space"),
    ("TimedOut", "timed out"),
    ("TooManyLinks", "too many links"),
    ("UnexpectedEof", "unexpected end of file"),
    ("Unsupported", "unsupported"),
    ("WouldBlock", "operation would block"),
    ("WriteZero", "write zero")]

def message (e : StreamError) : String :=
  e.detail.getD ((standardTexts.lookup e.kind).getD "uncategorized error")

def inspect (e : StreamError) : String :=
  match e.detail with
  | some text => record "Custom" [("kind", e.kind), ("error", quoted text)]
  | none => tuple "Kind" [e.kind]

/-- A write that takes nothing, although bytes are left. -/
def nothingTaken : StreamError := ⟨"WriteZero", none⟩

end StreamError
end ServiceMux
