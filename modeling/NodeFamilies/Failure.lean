import NodeFamilies.Problem

/-!
# Failures

Why a file could not be opened, read or written, and why a grammar or a module is not there.
-/

namespace NodeFamilies

/-- Why an operation on a file failed. -/
inductive FileError where
  | notFound
  | notADirectory
  | isADirectory
  | nameTooLong
  | storageFull
  | nulInName
  | notUtf8
  /-- The one who writes gave up, for a reason of their own. -/
  | interrupted (reason : String)
  deriving DecidableEq, Repr

def FileError.message : FileError → String
  | notFound => "No such file or directory (os error 2)"
  | notADirectory => "Not a directory (os error 20)"
  | isADirectory => "Is a directory (os error 21)"
  | nameTooLong => "File name too long (os error 36)"
  | storageFull => "No space left on device (os error 28)"
  | nulInName => "file name contained an unexpected NUL byte"
  | notUtf8 => "stream did not contain valid UTF-8"
  | interrupted reason => reason

inductive Failure where
  /-- The module could not be opened or written. -/
  | artifact (path : String) (cause : FileError)
  /-- The grammar file could not be read. -/
  | unreadable (path : String) (cause : FileError)
  /-- The grammar file holds no grammar; `place` is the path into the document. -/
  | malformed (path : String) (place detail : String)
  | rejected (problems : List Problem)
  deriving DecidableEq, Repr

namespace Failure

def message : Failure → String
  | artifact path _ => "I/O failure on `" ++ path ++ "`"
  | unreadable path _ => "cannot read grammar file `" ++ path ++ "`"
  | malformed path place detail =>
    "malformed grammar file `" ++ path ++ "` at " ++ place ++ ": " ++ detail
  | rejected problems => "grammar rejected with " ++ toString problems.length ++ " problem(s)"

/-- What the failure is due to. -/
def cause? : Failure → Option FileError
  | artifact _ cause => some cause
  | unreadable _ cause => some cause
  | malformed _ _ _ => none
  | rejected _ => none

/-- All messages, from the failure to its cause. -/
def chain (f : Failure) : List String := f.message :: (f.cause?.map FileError.message).toList

end Failure

end NodeFamilies
