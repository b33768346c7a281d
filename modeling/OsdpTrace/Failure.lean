import OsdpTrace.Json.Error

/-!
The ways an operation of the tracing core can fail, each with the message shown for it: a reader
id that does not parse (kept as given), a reader directory that could not list the readers,
settings no buffer could honour, a log output that could not be set up, a failed write, and JSON
that could not be read or written.
-/
namespace OsdpTrace

inductive Failure where
  | invalidReaderId (text : String)
  | directoryUnavailable (reason : String)
  | config (reason : String)
  | logging (reason : String)
  | io (reason : String)
  | json (error : Json.Error)

namespace Failure

def kind : Failure → String
  | .invalidReaderId _ => "InvalidReaderId"
  | .directoryUnavailable _ => "DirectoryUnavailable"
  | .config _ => "Config"
  | .logging _ => "Logging"
  | .io _ => "Io"
  | .json _ => "Json"

def message : Failure → String
  | .invalidReaderId text => "Invalid reader id: " ++ text
  | .directoryUnavailable reason => "Reader directory unavailable: " ++ reason
  | .config reason => "Configuration error: " ++ reason
  | .logging reason => "Logging setup failed: " ++ reason
  | .io reason => "IO error: " ++ reason
  | .json error => "JSON error: " ++ error.message

end Failure

end OsdpTrace
