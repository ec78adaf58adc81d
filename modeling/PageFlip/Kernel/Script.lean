import PageFlip.Failure.Errno
import PageFlip.Kernel.Request
import PageFlip.Table

/-!
# A scripted kernel

The kernel behind a device node as the results of the calls to come. A call takes the next result
from its script; when a script has run out its calls succeed. Packets of bytes wait to be read.

A request is made again as long as its result is transient: `settle` says which results one request
takes from a script and what it comes to.
-/

namespace PageFlip.Kernel

/-- The result of a call without a value: success, or the error number of a failure. -/
abbrev Result := Option Errno

/-- The scripted result of a poll. -/
inductive Poll
  /-- The poll fails. -/
  | failed (cause : Errno)
  /-- The node is readable, whether or not a packet waits. -/
  | ready
  /-- The node is readable if a packet waits. -/
  | natural
deriving DecidableEq

/-- The results of the calls to come. -/
structure Script where
  /-- The framebuffer that is registered next. -/
  nextFb : Framebuffer
  /-- How far apart the numbers of framebuffers are. -/
  fbStep : UInt32
  imports : List Result
  removals : List Result
  flips : Table Crtc (List Result)
  polls : List Poll
  reads : List Result
  packets : List (List UInt8)

/-- A call as the kernel sees it, with its result. -/
inductive Call
  /-- A request; `fb` is the framebuffer that it registered. -/
  | request (request : Request) (result : Result) (fb : Framebuffer)
  | poll (scripted : Poll) (readable : Bool)
  /-- A read of at most `size` bytes, with the number of bytes read. -/
  | read (size : Nat) (result : Except Errno Nat)

/-- What is taken from a script until a result counts. -/
structure Settled (α : Type) where
  /-- The failures that were only transient. -/
  transient : List Errno
  /-- The result that counts. -/
  result : α
  /-- The rest of the script. -/
  rest : List α

/-- The same with one more transient failure in front. -/
def Settled.afterFailure {α : Type} (e : Errno) (s : Settled α) : Settled α :=
  { s with transient := e :: s.transient }

/-- What one request takes from a script. -/
def settle : List Result → Settled Result
  | [] => ⟨[], none, []⟩
  | none :: rest => ⟨[], none, rest⟩
  | some e :: rest => if e.isTransient then (settle rest).afterFailure e else ⟨[], some e, rest⟩

/-- What one poll takes from a script. -/
def settlePoll : List Poll → Settled Poll
  | [] => ⟨[], .natural, []⟩
  | .failed e :: rest =>
    if e.isTransient then (settlePoll rest).afterFailure e else ⟨[], .failed e, rest⟩
  | p :: rest => ⟨[], p, rest⟩

/-- The result that counts is not transient. -/
theorem settle_not_transient (script : List Result) {e : Errno}
    (h : (settle script).result = some e) : e.isTransient = false := by
  fun_induction settle script with
  | case1 => simp at h
  | case2 => simp at h
  | case3 e' rest he ih => exact ih h
  | case4 e' rest he => simp_all

/-- The failures before it are. -/
theorem settle_transient (script : List Result) :
    ∀ e ∈ (settle script).transient, e.isTransient = true := by
  fun_induction settle script with
  | case1 => simp
  | case2 => simp
  | case3 e' rest he ih => simpa [Settled.afterFailure, he] using ih
  | case4 e' rest he => simp

/-- The result of a poll that counts is not transient either. -/
theorem settlePoll_not_transient (script : List Poll) {e : Errno}
    (h : (settlePoll script).result = .failed e) : e.isTransient = false := by
  fun_induction settlePoll script with
  | case1 => simp at h
  | case2 e' rest he ih => exact ih h
  | case3 e' rest he => simp_all
  | case4 p rest hp => exact absurd h (hp e)

end PageFlip.Kernel
