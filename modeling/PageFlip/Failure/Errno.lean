import PageFlip.Failure.Explanation
import PageFlip.Failure.ErrnoMessages

/-!
# System error numbers

The number a failed system call leaves behind. A call that was merely interrupted, or that found
nothing to do yet, has failed only for the moment (`Errno.isTransient`).
-/

namespace PageFlip

/-- The error number of a system call. -/
structure Errno where
  code : Int32
deriving DecidableEq

namespace Errno

/-- There is no such file or directory. -/
def noEntry : Errno := ⟨2⟩

/-- The call was interrupted by a signal. -/
def interrupted : Errno := ⟨4⟩

/-- The call would have to wait. -/
def again : Errno := ⟨11⟩

/-- There is not enough memory. -/
def noMemory : Errno := ⟨12⟩

/-- The device is busy. -/
def busy : Errno := ⟨16⟩

/-- A part of the path that is used as a directory is none. -/
def notDirectory : Errno := ⟨20⟩

/-- A directory stands where a file is needed. -/
def isDirectory : Errno := ⟨21⟩

/-- An argument is invalid. -/
def invalid : Errno := ⟨22⟩

/-- A name in a path, or the path, is too long. -/
def nameTooLong : Errno := ⟨36⟩

/-- The number of a failure that may have left none behind: it then counts as an invalid
argument. -/
def ofFailure (e : Option Errno) : Errno := e.getD invalid

/-- Whether the call may succeed if it is made again at once. -/
def isTransient (e : Errno) : Bool := e == interrupted || e == again

/-- The system's message for the number. -/
def message (e : Errno) : String :=
  match e.code.toInt with
  | .ofNat n => (messageAt? n).getD s!"Unknown error {n}"
  | .negSucc n => s!"Unknown error -{n + 1}"

/-- The system's message together with the number. -/
def explanation (e : Errno) : Explanation :=
  .ofMessage s!"{e.message} (os error {e.code.toInt})"

end Errno

end PageFlip
