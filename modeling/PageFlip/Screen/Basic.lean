import PageFlip.Config
import PageFlip.Flip.Barrier
import PageFlip.Flip.Registry
import PageFlip.Screen.Pipe

/-!
# The screen

A screen holds the display pipes of one device, the framebuffer slots they scan out from, the
registry of the flips in flight and the barriers of the swaps these flips belong to. Slot zero is
the screen's own, used by swaps that are not tied to a single pipe; slot `i + 1` belongs to the
pipe at position `i`.
-/

namespace PageFlip

/-- The number under which a client knows the handler of a swap or of a single event. -/
abbrev Client := Nat

/-- The place of a framebuffer slot on its screen. -/
abbrev Slot := Nat

/-- The place of a swap among those of its screen whose framebuffer could be imported. -/
abbrev SwapId := Nat

/-- A flip of a swap on one pipe, while it is in flight. -/
structure Flip where
  swap : SwapId
  /-- Whether the stamp of this flip is the one to report. -/
  reference : Bool
deriving DecidableEq

/-- What waits for the hardware under a token. -/
inductive Event
  /-- A flip that belongs to a swap. -/
  | flip (flip : Flip)
  /-- An event of its own, reported straight to a client. -/
  | plain (client : Client)
deriving DecidableEq

/-- A swap whose framebuffer was imported. -/
structure Swap where
  barrier : Barrier
  /-- The slot that the swap writes. -/
  slot : Slot
  /-- Who is told the outcome. -/
  client : Client
deriving DecidableEq

/-- The display pipes of one device and all that is in flight on them. -/
structure Screen where
  pipes : List Pipe
  /-- The framebuffers in the slots: the screen's own, then one for each pipe. -/
  slots : List Framebuffer
  config : Config
  registry : Registry Event
  swaps : List Swap

namespace Screen

/-- A screen on which nothing is in flight and whose slots are empty. -/
def new (pipes : List Pipe) (config : Config) : Screen where
  pipes := pipes
  slots := List.replicate (pipes.length + 1) .none
  config := config
  registry := .new config.maxPending.toNat
  swaps := []

/-- The slot used when a swap is not tied to a single pipe. -/
def sharedSlot : Slot := 0

/-- The slot of the pipe at a position. -/
def pipeSlot (i : Nat) : Slot := i + 1

/-- The framebuffer in a slot. -/
def held (s : Screen) (slot : Slot) : Framebuffer := (s.slots[slot]?).getD .none

/-- Puts a framebuffer into a slot. -/
def assign (s : Screen) (slot : Slot) (fb : Framebuffer) : Screen :=
  { s with slots := s.slots.set slot fb }

/-- Assigning to a slot changes this slot, if there is one, and no other. -/
theorem held_assign (s : Screen) (slot other : Slot) (fb : Framebuffer) :
    (s.assign slot fb).held other =
      if other = slot ∧ slot < s.slots.length then fb else s.held other := by
  simp only [held, assign, List.getElem?_set]
  grind

/-- Assigning to a slot what it holds changes nothing. -/
theorem assign_held (s : Screen) (slot : Slot) : s.assign slot (s.held slot) = s := by
  by_cases h : slot < s.slots.length
  · rw [assign, held, List.getElem?_eq_getElem h, Option.getD_some, List.set_getElem_self]
  · rw [assign, List.set_eq_of_length_le (Nat.le_of_not_lt h)]

/-- The position of the first pipe with a number among the vertical blanks. -/
def pipeAt? (s : Screen) (vblank : UInt32) : Option Nat :=
  s.pipes.findIdx? fun p => p.vblank == vblank

/-- The position of the first pipe that a controller drives. -/
def pipeOf? (s : Screen) (crtc : Crtc) : Option Nat :=
  s.pipes.findIdx? fun p => p.crtc == crtc

/-- Whether there is an enabled pipe at a position. -/
def isEnabled (s : Screen) (i : Nat) : Bool := (s.pipes[i]?).any Pipe.enabled

/-- Enables or disables the pipe at a position, and touches nothing else. -/
def setEnabled (s : Screen) (i : Nat) (enabled : Bool) : Screen :=
  { s with pipes := s.pipes.modify i fun p => { p with enabled := enabled } }

/-- Notes that the pipe at a position accepted a flip. -/
def setFlippedAt (s : Screen) (i : Nat) (now : Instant) : Screen :=
  { s with pipes := s.pipes.modify i fun p => { p with flippedAt := some now } }

/-- Replaces the barrier of a swap. -/
def setBarrier (s : Screen) (id : SwapId) (b : Barrier) : Screen :=
  { s with swaps := s.swaps.modify id fun w => { w with barrier := b } }

/-- Replaces the registry. -/
def setRegistry (s : Screen) (r : Registry Event) : Screen := { s with registry := r }

/-- Adds a swap and returns its place. -/
def addSwap (s : Screen) (w : Swap) : SwapId × Screen :=
  (s.swaps.length, { s with swaps := s.swaps ++ [w] })

/-- Makes a token pending for an event of a client. -/
def enqueue (s : Screen) (crtc : Crtc) (client : Client) : Option (Token × Screen) :=
  (s.registry.allocate crtc (.plain client)).map fun a => (a.1, s.setRegistry a.2)

end Screen

end PageFlip
