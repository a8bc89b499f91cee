/-! # Input and output errors

An error of the operating system is a number with a fixed text; other errors have a kind, and
perhaps a text of their own.

* `IoError.message` — the text shown.
* `IoError.errorKind` — the kind, which the system's numbers have too.
* `IoError.isInterrupted` — whether the operation should simply be tried again.
* `IoFault` — an error that is not an interruption. -/

namespace ChildWatch

/-- The kinds of input and output errors. -/
inductive IoErrorKind where
  | addrInUse
  | addrNotAvailable
  | alreadyExists
  | argumentListTooLong
  | brokenPipe
  | connectionAborted
  | connectionRefused
  | connectionReset
  | crossesDevices
  | deadlock
  | directoryNotEmpty
  | executableFileBusy
  | fileTooLarge
  | filesystemLoop
  | hostUnreachable
  | inProgress
  | interrupted
  | invalidData
  | invalidFilename
  | invalidInput
  | isADirectory
  | networkDown
  | networkUnreachable
  | notADirectory
  | notConnected
  | notFound
  | notSeekable
  | other
  | outOfMemory
  | permissionDenied
  | quotaExceeded
  | readOnlyFilesystem
  | resourceBusy
  | staleNetworkFileHandle
  | storageFull
  | timedOut
  | tooManyLinks
  | uncategorized
  | unexpectedEof
  | unsupported
  | wouldBlock
  | writeZero
deriving DecidableEq, Repr, Inhabited

namespace IoErrorKind

/-- What is said of a kind when nothing else is known. -/
def description : IoErrorKind → String
  | .addrInUse => "address in use"
  | .addrNotAvailable => "address not available"
  | .alreadyExists => "entity already exists"
  | .argumentListTooLong => "argument list too long"
  | .brokenPipe => "broken pipe"
  | .connectionAborted => "connection aborted"
  | .connectionRefused => "connection refused"
  | .connectionReset => "connection reset"
  | .crossesDevices => "cross-device link or rename"
  | .deadlock => "deadlock"
  | .directoryNotEmpty => "directory not empty"
  | .executableFileBusy => "executable file busy"
  | .fileTooLarge => "file too large"
  | .filesystemLoop => "filesystem loop or indirection limit (e.g. symlink loop)"
  | .hostUnreachable => "host unreachable"
  | .inProgress => "in progress"
  | .interrupted => "operation interrupted"
  | .invalidData => "invalid data"
  | .invalidFilename => "invalid filename"
  | .invalidInput => "invalid input parameter"
  | .isADirectory => "is a directory"
  | .networkDown => "network down"
  | .networkUnreachable => "network unreachable"
  | .notADirectory => "not a directory"
  | .notConnected => "not connected"
  | .notFound => "entity not found"
  | .notSeekable => "seek on unseekable file"
  | .other => "other error"
  | .outOfMemory => "out of memory"
  | .permissionDenied => "permission denied"
  | .quotaExceeded => "quota exceeded"
  | .readOnlyFilesystem => "read-only filesystem or storage medium"
  | .resourceBusy => "resource busy"
  | .staleNetworkFileHandle => "stale network file handle"
  | .storageFull => "no storage space"
  | .timedOut => "timed out"
  | .tooManyLinks => "too many links"
  | .uncategorized => "uncategorized error"
  | .unexpectedEof => "unexpected end of file"
  | .unsupported => "unsupported"
  | .wouldBlock => "operation would block"
  | .writeZero => "write zero"

/-- The kind of a given name. -/
def ofName? : String → Option IoErrorKind
  | "AddrInUse" => some .addrInUse
  | "AddrNotAvailable" => some .addrNotAvailable
  | "AlreadyExists" => some .alreadyExists
  | "ArgumentListTooLong" => some .argumentListTooLong
  | "BrokenPipe" => some .brokenPipe
  | "ConnectionAborted" => some .connectionAborted
  | "ConnectionRefused" => some .connectionRefused
  | "ConnectionReset" => some .connectionReset
  | "CrossesDevices" => some .crossesDevices
  | "Deadlock" => some .deadlock
  | "DirectoryNotEmpty" => some .directoryNotEmpty
  | "ExecutableFileBusy" => some .executableFileBusy
  | "FileTooLarge" => some .fileTooLarge
  | "FilesystemLoop" => some .filesystemLoop
  | "HostUnreachable" => some .hostUnreachable
  | "InProgress" => some .inProgress
  | "Interrupted" => some .interrupted
  | "InvalidData" => some .invalidData
  | "InvalidFilename" => some .invalidFilename
  | "InvalidInput" => some .invalidInput
  | "IsADirectory" => some .isADirectory
  | "NetworkDown" => some .networkDown
  | "NetworkUnreachable" => some .networkUnreachable
  | "NotADirectory" => some .notADirectory
  | "NotConnected" => some .notConnected
  | "NotFound" => some .notFound
  | "NotSeekable" => some .notSeekable
  | "Other" => some .other
  | "OutOfMemory" => some .outOfMemory
  | "PermissionDenied" => some .permissionDenied
  | "QuotaExceeded" => some .quotaExceeded
  | "ReadOnlyFilesystem" => some .readOnlyFilesystem
  | "ResourceBusy" => some .resourceBusy
  | "StaleNetworkFileHandle" => some .staleNetworkFileHandle
  | "StorageFull" => some .storageFull
  | "TimedOut" => some .timedOut
  | "TooManyLinks" => some .tooManyLinks
  | "Uncategorized" => some .uncategorized
  | "UnexpectedEof" => some .unexpectedEof
  | "Unsupported" => some .unsupported
  | "WouldBlock" => some .wouldBlock
  | "WriteZero" => some .writeZero
  | _ => none

end IoErrorKind

/-- The system's text for an error number. -/
def osErrorText : Nat → String
  | 1 => "Operation not permitted"
  | 2 => "No such file or directory"
  | 3 => "No such process"
  | 4 => "Interrupted system call"
  | 5 => "Input/output error"
  | 6 => "No such device or address"
  | 7 => "Argument list too long"
  | 8 => "Exec format error"
  | 9 => "Bad file descriptor"
  | 10 => "No child processes"
  | 11 => "Resource temporarily unavailable"
  | 12 => "Cannot allocate memory"
  | 13 => "Permission denied"
  | 14 => "Bad address"
  | 15 => "Block device required"
  | 16 => "Device or resource busy"
  | 17 => "File exists"
  | 18 => "Invalid cross-device link"
  | 19 => "No such device"
  | 20 => "Not a directory"
  | 21 => "Is a directory"
  | 22 => "Invalid argument"
  | 23 => "Too many open files in system"
  | 24 => "Too many open files"
  | 25 => "Inappropriate ioctl for device"
  | 26 => "Text file busy"
  | 27 => "File too large"
  | 28 => "No space left on device"
  | 29 => "Illegal seek"
  | 30 => "Read-only file system"
  | 31 => "Too many links"
  | 32 => "Broken pipe"
  | 33 => "Numerical argument out of domain"
  | 34 => "Numerical result out of range"
  | 35 => "Resource deadlock avoided"
  | 36 => "File name too long"
  | 37 => "No locks available"
  | 38 => "Function not implemented"
  | 39 => "Directory not empty"
  | 40 => "Too many levels of symbolic links"
  | 42 => "No message of desired type"
  | 43 => "Identifier removed"
  | 44 => "Channel number out of range"
  | 45 => "Level 2 not synchronized"
  | 46 => "Level 3 halted"
  | 47 => "Level 3 reset"
  | 48 => "Link number out of range"
  | 49 => "Protocol driver not attached"
  | 50 => "No CSI structure available"
  | 51 => "Level 2 halted"
  | 52 => "Invalid exchange"
  | 53 => "Invalid request descriptor"
  | 54 => "Exchange full"
  | 55 => "No anode"
  | 56 => "Invalid request code"
  | 57 => "Invalid slot"
  | 59 => "Bad font file format"
  | 60 => "Device not a stream"
  | 61 => "No data available"
  | 62 => "Timer expired"
  | 63 => "Out of streams resources"
  | 64 => "Machine is not on the network"
  | 65 => "Package not installed"
  | 66 => "Object is remote"
  | 67 => "Link has been severed"
  | 68 => "Advertise error"
  | 69 => "Srmount error"
  | 70 => "Communication error on send"
  | 71 => "Protocol error"
  | 72 => "Multihop attempted"
  | 73 => "RFS specific error"
  | 74 => "Bad message"
  | 75 => "Value too large for defined data type"
  | 76 => "Name not unique on network"
  | 77 => "File descriptor in bad state"
  | 78 => "Remote address changed"
  | 79 => "Can not access a needed shared library"
  | 80 => "Accessing a corrupted shared library"
  | 81 => ".lib section in a.out corrupted"
  | 82 => "Attempting to link in too many shared libraries"
  | 83 => "Cannot exec a shared library directly"
  | 84 => "Invalid or incomplete multibyte or wide character"
  | 85 => "Interrupted system call should be restarted"
  | 86 => "Streams pipe error"
  | 87 => "Too many users"
  | 88 => "Socket operation on non-socket"
  | 89 => "Destination address required"
  | 90 => "Message too long"
  | 91 => "Protocol wrong type for socket"
  | 92 => "Protocol not available"
  | 93 => "Protocol not supported"
  | 94 => "Socket type not supported"
  | 95 => "Operation not supported"
  | 96 => "Protocol family not supported"
  | 97 => "Address family not supported by protocol"
  | 98 => "Address already in use"
  | 99 => "Cannot assign requested address"
  | 100 => "Network is down"
  | 101 => "Network is unreachable"
  | 102 => "Network dropped connection on reset"
  | 103 => "Software caused connection abort"
  | 104 => "Connection reset by peer"
  | 105 => "No buffer space available"
  | 106 => "Transport endpoint is already connected"
  | 107 => "Transport endpoint is not connected"
  | 108 => "Cannot send after transport endpoint shutdown"
  | 109 => "Too many references: cannot splice"
  | 110 => "Connection timed out"
  | 111 => "Connection refused"
  | 112 => "Host is down"
  | 113 => "No route to host"
  | 114 => "Operation already in progress"
  | 115 => "Operation now in progress"
  | 116 => "Stale file handle"
  | 117 => "Structure needs cleaning"
  | 118 => "Not a XENIX named type file"
  | 119 => "No XENIX semaphores available"
  | 120 => "Is a named type file"
  | 121 => "Remote I/O error"
  | 122 => "Disk quota exceeded"
  | 123 => "No medium found"
  | 124 => "Wrong medium type"
  | 125 => "Operation canceled"
  | 126 => "Required key not available"
  | 127 => "Key has expired"
  | 128 => "Key has been revoked"
  | 129 => "Key was rejected by service"
  | 130 => "Owner died"
  | 131 => "State not recoverable"
  | 132 => "Operation not possible due to RF-kill"
  | 133 => "Memory page has hardware error"
  | n => "Unknown error " ++ toString n

/-- An input or output error: of the system, of a kind, or of a kind with a text of its own. -/
inductive IoError where
  | os (number : Nat)
  | kind (k : IoErrorKind)
  | custom (k : IoErrorKind) (message : String)
deriving DecidableEq, Repr

namespace IoError

instance : Inhabited IoError := ⟨.kind .other⟩

/-- The error numbers that launching and reading files give. -/
def noSuchFile : IoError := .os 2

/-- The process or group does not exist. -/
def noSuchProcess : IoError := .os 3

/-- The file is one that may not be run or read. -/
def permissionDenied : IoError := .os 13

/-- The path goes through something that is no directory. -/
def notADirectory : IoError := .os 20

/-- The path names a directory where a file is needed. -/
def isADirectory : IoError := .os 21

/-- A name in the path is longer than the system allows. -/
def nameTooLong : IoError := .os 36

/-- The text of an error. -/
def message : IoError → String
  | .os n => osErrorText n ++ " (os error " ++ toString n ++ ")"
  | .kind k => k.description
  | .custom _ m => m

/-- The text of an error without the number of it. -/
def reason : IoError → String
  | .os n => osErrorText n
  | e => e.message

/-- The kind of an error of the system with a number. -/
def kindOfNumber : Nat → IoErrorKind
  | 1 | 13 => .permissionDenied
  | 2 => .notFound
  | 4 => .interrupted
  | 7 => .argumentListTooLong
  | 11 => .wouldBlock
  | 12 => .outOfMemory
  | 16 => .resourceBusy
  | 17 => .alreadyExists
  | 18 => .crossesDevices
  | 20 => .notADirectory
  | 21 => .isADirectory
  | 22 => .invalidInput
  | 26 => .executableFileBusy
  | 27 => .fileTooLarge
  | 28 => .storageFull
  | 29 => .notSeekable
  | 30 => .readOnlyFilesystem
  | 31 => .tooManyLinks
  | 32 => .brokenPipe
  | 35 => .deadlock
  | 36 => .invalidFilename
  | 38 | 95 => .unsupported
  | 39 => .directoryNotEmpty
  | 40 => .filesystemLoop
  | 98 => .addrInUse
  | 99 => .addrNotAvailable
  | 100 => .networkDown
  | 101 => .networkUnreachable
  | 103 => .connectionAborted
  | 104 => .connectionReset
  | 107 => .notConnected
  | 110 => .timedOut
  | 111 => .connectionRefused
  | 113 => .hostUnreachable
  | 115 => .inProgress
  | 116 => .staleNetworkFileHandle
  | 122 => .quotaExceeded
  | _ => .uncategorized

/-- The kind of an error. -/
def errorKind : IoError → IoErrorKind
  | .os n => kindOfNumber n
  | .kind k => k
  | .custom k _ => k

/-- Whether a call was merely interrupted, so that it can be made again. -/
def isInterrupted (e : IoError) : Bool := e.errorKind == .interrupted

end IoError

/-- A **fault**: an error that is not an interruption, so that the call is not made again. -/
structure IoFault where
  error : IoError
  not_isInterrupted : error.isInterrupted = false
deriving DecidableEq, Repr

/-- An error as a fault, unless it is an interruption. -/
def IoError.fault? (e : IoError) : Option IoFault :=
  if h : e.isInterrupted = false then some ⟨e, h⟩ else none

/-- A fault is one of its own error. -/
@[simp] theorem IoFault.fault?_error (fault : IoFault) : fault.error.fault? = some fault := by
  rw [IoError.fault?, dif_pos fault.not_isInterrupted]

end ChildWatch
