/-!
# Display objects

The display hardware numbers its objects. A `Crtc` drives one display pipe and a `Framebuffer` is
a buffer registered for scanout; number zero names no object of either kind.
-/

namespace PageFlip

/-- The number of the controller that drives a display pipe. -/
structure Crtc where
  id : UInt32
deriving DecidableEq

/-- The number of a buffer that is registered with the hardware for scanout. -/
structure Framebuffer where
  id : UInt32
deriving DecidableEq

namespace Crtc

/-- No controller. -/
def none : Crtc := ⟨0⟩

/-- Whether this names no controller. -/
def isNone (c : Crtc) : Bool := c.id == 0

instance : ToString Crtc := ⟨fun c => toString c.id.toNat⟩

/-- The number with the kind of object it names, as in `DrmCrtc(5)`. -/
def describe (c : Crtc) : String := s!"DrmCrtc({c})"

end Crtc

namespace Framebuffer

/-- No framebuffer. -/
def none : Framebuffer := ⟨0⟩

/-- Whether this names no framebuffer. -/
def isNone (fb : Framebuffer) : Bool := fb.id == 0

instance : ToString Framebuffer := ⟨fun fb => toString fb.id.toNat⟩

/-- The number with the kind of object it names, as in `DrmFb(5)`. -/
def describe (fb : Framebuffer) : String := s!"DrmFb({fb})"

/-- Only the framebuffer `none` is none. -/
@[simp] theorem isNone_iff {fb : Framebuffer} : fb.isNone = true ↔ fb = none := by
  cases fb; simp [isNone, none]

end Framebuffer

end PageFlip
