import PageHeat.Text.Decimal

/-
  Faults of the devices that files and streams live on.

  A fault either carries a number of the operating system,
  whose sentence is known, or a sentence of its own.

  Key definitions include:
    * `DeviceFault`
    * `DeviceFault.message`
-/

------------------------------------------------------------
-- Device Faults
------------------------------------------------------------

namespace PageHeat

/- Why reading, writing, or finding a file went wrong. -/
inductive DeviceFault where
  | numbered (code : Int)
  | described (sentence : Text)
  deriving Repr, DecidableEq

namespace DeviceFault

/- Nothing exists under the name. -/
@[match_pattern]
def noSuchFile : DeviceFault := .numbered 2

/- Something exists under the name already. -/
@[match_pattern]
def fileExists : DeviceFault := .numbered 17

/- Something on the way is no folder. -/
@[match_pattern]
def notFolder : DeviceFault := .numbered 20

/- A folder stands where a file is needed. -/
@[match_pattern]
def isFolder : DeviceFault := .numbered 21

@[match_pattern]
def noSpace : DeviceFault := .numbered 28

/- A name or a whole path is too long. -/
@[match_pattern]
def nameTooLong : DeviceFault := .numbered 36

/- Links lead to links without end. -/
@[match_pattern]
def tooManyLinks : DeviceFault := .numbered 40

/- A name holds the character that ends names. -/
def nulInName : DeviceFault :=
  .described "file name contained an unexpected NUL byte"

/-
  The device that takes nothing gives octets without end. No
  reader of it comes to a result, so it is left out as an
  input, and this fault stands where one would be.
-/
def endless : DeviceFault :=
  .described "content without end"

/- A file that must be text is not. -/
def notText : DeviceFault :=
  .described "stream did not contain valid UTF-8"

------------------------------------------------------------
-- Sentences
------------------------------------------------------------

/- The sentences of the numbered faults, from one on. -/
def sentences : List String :=
  [
    "Operation not permitted",
    "No such file or directory",
    "No such process",
    "Interrupted system call",
    "Input/output error",
    "No such device or address",
    "Argument list too long",
    "Exec format error",
    "Bad file descriptor",
    "No child processes",
    "Resource temporarily unavailable",
    "Cannot allocate memory",
    "Permission denied",
    "Bad address",
    "Block device required",
    "Device or resource busy",
    "File exists",
    "Invalid cross-device link",
    "No such device",
    "Not a directory",
    "Is a directory",
    "Invalid argument",
    "Too many open files in system",
    "Too many open files",
    "Inappropriate ioctl for device",
    "Text file busy",
    "File too large",
    "No space left on device",
    "Illegal seek",
    "Read-only file system",
    "Too many links",
    "Broken pipe",
    "Numerical argument out of domain",
    "Numerical result out of range",
    "Resource deadlock avoided",
    "File name too long",
    "No locks available",
    "Function not implemented",
    "Directory not empty",
    "Too many levels of symbolic links",
    "Unknown error 41",
    "No message of desired type",
    "Identifier removed",
    "Channel number out of range",
    "Level 2 not synchronized",
    "Level 3 halted",
    "Level 3 reset",
    "Link number out of range",
    "Protocol driver not attached",
    "No CSI structure available",
    "Level 2 halted",
    "Invalid exchange",
    "Invalid request descriptor",
    "Exchange full",
    "No anode",
    "Invalid request code",
    "Invalid slot",
    "Unknown error 58",
    "Bad font file format",
    "Device not a stream",
    "No data available",
    "Timer expired",
    "Out of streams resources",
    "Machine is not on the network",
    "Package not installed",
    "Object is remote",
    "Link has been severed",
    "Advertise error",
    "Srmount error",
    "Communication error on send",
    "Protocol error",
    "Multihop attempted",
    "RFS specific error",
    "Bad message",
    "Value too large for defined data type",
    "Name not unique on network",
    "File descriptor in bad state",
    "Remote address changed",
    "Can not access a needed shared library",
    "Accessing a corrupted shared library",
    ".lib section in a.out corrupted",
    "Attempting to link in too many shared libraries",
    "Cannot exec a shared library directly",
    "Invalid or incomplete multibyte or wide character",
    "Interrupted system call should be restarted",
    "Streams pipe error",
    "Too many users",
    "Socket operation on non-socket",
    "Destination address required",
    "Message too long",
    "Protocol wrong type for socket",
    "Protocol not available",
    "Protocol not supported",
    "Socket type not supported",
    "Operation not supported",
    "Protocol family not supported",
    "Address family not supported by protocol",
    "Address already in use",
    "Cannot assign requested address",
    "Network is down",
    "Network is unreachable",
    "Network dropped connection on reset",
    "Software caused connection abort",
    "Connection reset by peer",
    "No buffer space available",
    "Transport endpoint is already connected",
    "Transport endpoint is not connected",
    "Cannot send after transport endpoint shutdown",
    "Too many references: cannot splice",
    "Connection timed out",
    "Connection refused",
    "Host is down",
    "No route to host",
    "Operation already in progress",
    "Operation now in progress",
    "Stale file handle",
    "Structure needs cleaning",
    "Not a XENIX named type file",
    "No XENIX semaphores available",
    "Is a named type file",
    "Remote I/O error",
    "Disk quota exceeded",
    "No medium found",
    "Wrong medium type",
    "Operation canceled",
    "Required key not available",
    "Key has expired",
    "Key has been revoked",
    "Key was rejected by service",
    "Owner died",
    "State not recoverable",
    "Operation not possible due to RF-kill",
    "Memory page has hardware error"
  ]

/- The sentence of a number that no fault has. -/
def unknown (code : Int) : Text :=
  "Unknown error " ++ Decimal.integerText code

/- The sentence of a numbered fault. -/
def sentence : Int → Text
  | .ofNat 0 => "Success"
  | .ofNat (n + 1) =>
      match sentences[n]? with
      | some s => s
      | none => unknown (n + 1)
  | .negSucc n => unknown (.negSucc n)

/- How a fault is shown. -/
def message : DeviceFault → Text
  | .numbered code =>
      sentence code ++ " (os error " ++
        Decimal.integerText code ++ ")"
  | .described sentence => sentence

end DeviceFault

end PageHeat
