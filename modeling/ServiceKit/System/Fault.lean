namespace ServiceKit

/-- Why the system refused an operation. -/
inductive OsFault where
  | notPermitted
  | notFound
  | noSuchDevice
  | accessDenied
  | alreadyExists
  | notDirectory
  | isDirectory
  | invalidArgument
  | nameTooLong
  | addressInUse
  | addressNotAvailable
  | notUtf8
  | socketPathTooLong
  | socketNameTooLong
  | nulInPath
  | nulInSocketPath
deriving DecidableEq, Repr

namespace OsFault

def numbered (text : String) (code : Nat) : String :=
  text ++ " (os error " ++ toString code ++ ")"

def message : OsFault → String
  | notPermitted => numbered "Operation not permitted" 1
  | notFound => numbered "No such file or directory" 2
  | noSuchDevice => numbered "No such device or address" 6
  | accessDenied => numbered "Permission denied" 13
  | alreadyExists => numbered "File exists" 17
  | notDirectory => numbered "Not a directory" 20
  | isDirectory => numbered "Is a directory" 21
  | invalidArgument => numbered "Invalid argument" 22
  | nameTooLong => numbered "File name too long" 36
  | addressInUse => numbered "Address already in use" 98
  | addressNotAvailable => numbered "Cannot assign requested address" 99
  | notUtf8 => "stream did not contain valid UTF-8"
  | socketPathTooLong => "path must be shorter than SUN_LEN"
  | socketNameTooLong => "abstract socket name must be shorter than SUN_LEN"
  | nulInPath => "file name contained an unexpected NUL byte"
  | nulInSocketPath => "paths must not contain interior null bytes"

end OsFault

/-- A call that neither returned a value nor an error: the process gave up. -/
inductive Crash where
  | secondsOutOfRange
  | additionOverflow
  | indexOutOfBounds (length index : Nat)
  | noCharBoundary (index : Nat)
  | instantOutOfRange
  | tooManyPermits
  | idleTimeTooLong
  | initializerSpent
  | custom (text : String)
deriving DecidableEq, Repr

namespace Crash

def message : Crash → String
  | secondsOutOfRange =>
    "cannot convert float seconds to Duration: value is either too big or NaN"
  | additionOverflow => "attempt to add with overflow"
  | indexOutOfBounds length index =>
    "index out of bounds: the len is " ++ toString length ++ " but the index is " ++ toString index
  | noCharBoundary index => "byte index " ++ toString index ++ " is not a char boundary"
  | instantOutOfRange => "overflow when adding duration to instant"
  | tooManyPermits => "a semaphore may not have more than MAX_PERMITS permits (2305843009213693951)"
  | idleTimeTooLong => "time_to_idle is longer than 1000 years"
  | initializerSpent => "once_value initializer panicked on an earlier call"
  | custom text => text

end Crash

/-- What ends a computation early. -/
inductive Stop (ε : Type) where
  | error (e : ε)
  | crash (c : Crash)
deriving Repr

namespace Stop

def map (f : ε → δ) : Stop ε → Stop δ
  | error e => error (f e)
  | crash c => crash c

end Stop

end ServiceKit
