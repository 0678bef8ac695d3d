set_option autoImplicit false
set_option relaxedAutoImplicit false

/-!
Why a step on stored files fails.
-/

namespace SchemaMocks

/-- The causes for which a step on files fails. -/
inductive StorageFault where
  | notFound
  | notADirectory
  | isADirectory
  | alreadyExists
  | nameTooLong
  | busy
  /-- A path with a character that no path may have. -/
  | zeroInPath
  /-- A path that does not end in the name of a file. -/
  | noFileName (path : String)
  | notText
  | other (message : String)
  deriving DecidableEq

namespace StorageFault

def kind : StorageFault → String
  | notFound => "NotFound"
  | notADirectory => "NotADirectory"
  | isADirectory => "IsADirectory"
  | alreadyExists => "AlreadyExists"
  | nameTooLong => "InvalidFilename"
  | busy => "ResourceBusy"
  | zeroInPath => "InvalidInput"
  | noFileName _ => "InvalidInput"
  | notText => "InvalidData"
  | other _ => "Other"

def message : StorageFault → String
  | notFound => "No such file or directory (os error 2)"
  | notADirectory => "Not a directory (os error 20)"
  | isADirectory => "Is a directory (os error 21)"
  | alreadyExists => "File exists (os error 17)"
  | nameTooLong => "File name too long (os error 36)"
  | busy => "Device or resource busy (os error 16)"
  | zeroInPath => "file name contained an unexpected NUL byte"
  | noFileName path => "invalid path for atomic write: " ++ path
  | notText => "stream did not contain valid UTF-8"
  | other message => message

end StorageFault

end SchemaMocks
