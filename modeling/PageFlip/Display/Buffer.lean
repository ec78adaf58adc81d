/-!
# Scanout buffers

The description under which a buffer is registered for scanout: its size, pixel format and layout,
and up to four memory planes.
-/

namespace PageFlip

/-- One value for each of the four planes a buffer may have. -/
abbrev Planes (α : Type) := Vector α 4

/-- A buffer that can be registered with the display hardware as a framebuffer. -/
structure Buffer where
  width : UInt32
  height : UInt32
  /-- The code of the pixel format. -/
  format : UInt32
  /-- The code of the memory layout, or `Buffer.implicitLayout`. -/
  modifier : UInt64
  /-- The memory object of each plane; zero where there is no plane. -/
  handles : Planes UInt32
  /-- The bytes per line of each plane. -/
  pitches : Planes UInt32
  /-- The start of each plane in its memory object. -/
  offsets : Planes UInt32
deriving DecidableEq

namespace Buffer

/-- The modifier of a buffer whose layout is left to the driver. -/
def implicitLayout : UInt64 := 0x00ff_ffff_ffff_ffff

/-- A buffer with a single plane and no explicit layout. -/
def linear (width height format handle pitch : UInt32) : Buffer where
  width := width
  height := height
  format := format
  modifier := implicitLayout
  handles := #v[handle, 0, 0, 0]
  pitches := #v[pitch, 0, 0, 0]
  offsets := #v[0, 0, 0, 0]

/-- Whether the buffer names its layout. -/
def hasModifier (b : Buffer) : Bool := b.modifier != implicitLayout

/-- The layout of each plane: the buffer's own for the planes it has, zero for the others and
for all planes of a buffer without an explicit layout. -/
def modifiers (b : Buffer) : Planes UInt64 :=
  b.handles.map fun handle => if b.hasModifier && handle != 0 then b.modifier else 0

end Buffer

end PageFlip
