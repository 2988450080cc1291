import LinkGauge.Text.Decimal

/-!
# Errors and log events
-/

namespace LinkGauge

/-!
## Errors of the operating system

An error number is shown as the system's own description with the number behind
it. A few failures of reading a file have a description and no number.
-/

/-- A failure reported by the operating system or by reading a file. -/
inductive SystemError where
  /-- A numbered error. -/
  | code (number : Nat)
  /-- A file is not UTF-8. -/
  | notUtf8
  /-- A path contains a NUL. -/
  | nulInPath
  /-- Any other description. -/
  | other (description : String)
  deriving DecidableEq, Repr

namespace SystemError

/-- The system's description of an error number. -/
def describe : Nat → String
  | 1 => "Operation not permitted"
  | 2 => "No such file or directory"
  | 4 => "Interrupted system call"
  | 5 => "Input/output error"
  | 9 => "Bad file descriptor"
  | 11 => "Resource temporarily unavailable"
  | 12 => "Cannot allocate memory"
  | 13 => "Permission denied"
  | 14 => "Bad address"
  | 16 => "Device or resource busy"
  | 17 => "File exists"
  | 19 => "No such device"
  | 20 => "Not a directory"
  | 21 => "Is a directory"
  | 22 => "Invalid argument"
  | 23 => "Too many open files in system"
  | 24 => "Too many open files"
  | 27 => "File too large"
  | 28 => "No space left on device"
  | 30 => "Read-only file system"
  | 32 => "Broken pipe"
  | 36 => "File name too long"
  | 38 => "Function not implemented"
  | 40 => "Too many levels of symbolic links"
  | 88 => "Socket operation on non-socket"
  | 92 => "Protocol not available"
  | 93 => "Protocol not supported"
  | 95 => "Operation not supported"
  | 104 => "Connection reset by peer"
  | 105 => "No buffer space available"
  | 107 => "Transport endpoint is not connected"
  | 110 => "Connection timed out"
  | n => "Unknown error " ++ Text.natText n

/-- The text of an error. -/
def message : SystemError → String
  | .code n => describe n ++ " (os error " ++ Text.natText n ++ ")"
  | .notUtf8 => "stream did not contain valid UTF-8"
  | .nulInPath => "file name contained an unexpected NUL byte"
  | .other description => description

end SystemError

/-!
## Log events

An event has a level, a fixed message and named fields.
-/

/-- How much an event matters. -/
inductive LogLevel where
  | info
  | warn
  deriving DecidableEq, Repr

/-- The value of a field. -/
inductive LogValue where
  | text (value : String)
  | number (value : Float)
  deriving Repr

/-- One entry of the log. -/
structure LogEvent where
  level : LogLevel
  message : String
  fields : List (String × LogValue) := []
  deriving Repr

namespace LogEvent

/-- A warning about an error. -/
def warning (message error : String) : LogEvent := ⟨.warn, message, [("error", .text error)]⟩

end LogEvent

/-- The events so far, newest first. -/
abbrev Log := List LogEvent

end LinkGauge
