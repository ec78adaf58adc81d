import PageFlip.Display.Buffer
import PageFlip.Session.Task

/-!
# Requests to the kernel

The three requests that a display device node takes. The number of a request that is both written
and read encodes the size of its argument, the letter of the subsystem and the place of the request
in it.
-/

namespace PageFlip.Kernel

/-- A request to the device node. -/
inductive Request
  /-- Register a buffer as a framebuffer. -/
  | addFramebuffer (buffer : Buffer)
  /-- Give up a framebuffer. -/
  | removeFramebuffer (fb : Framebuffer)
  /-- Flip a pipe to a framebuffer. -/
  | flip (submission : Submission)
deriving DecidableEq

namespace Request

/-- The number of a request that is written and read, for an argument of `size` bytes. -/
def numberOf (place size : Nat) : Nat :=
  (3 <<< 30) ||| (size <<< 16) ||| ('d'.toNat <<< 8) ||| place

/-- The number of the request. -/
def number : Request → Nat
  | addFramebuffer _ => numberOf 0xb8 104
  | removeFramebuffer _ => numberOf 0xaf 4
  | flip _ => numberOf 0xb0 24

/-- The flag of a framebuffer whose buffer names its layout. -/
def modifierFlag : UInt32 := 2

/-- The flags under which a buffer is registered. -/
def bufferFlags (b : Buffer) : UInt32 := if b.hasModifier then modifierFlag else 0

end Request

end PageFlip.Kernel
