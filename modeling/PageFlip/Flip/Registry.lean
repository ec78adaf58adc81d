import PageFlip.Display.Object
import PageFlip.Flip.Violation
import PageFlip.Table

/-!
# The registry of flips in flight

The registry maps tokens to the events that wait for them. A token is *pending* from its
allocation until its event is handed out; when a pipe is disabled its pending tokens are
*retired*: their events are handed out at once, and the tokens are remembered because the hardware
may still report them. Pending and retired tokens together never exceed the capacity, and
`allocate` only hands out tokens that are neither.
-/

namespace PageFlip

/-- An event that waits for the hardware, and the controller it waits for. -/
structure Pending (α : Type) where
  crtc : Crtc
  event : α
deriving DecidableEq

/-- The tokens in flight. -/
structure Registry (α : Type) where
  /-- The number at which the search for the next token starts. -/
  next : UInt32
  /-- The most tokens that may be pending or retired, as far as there are enough numbers. -/
  max : Nat
  pending : Table Token (Pending α)
  /-- Tokens whose events were handed out while the hardware might still report them. -/
  retired : Table Token Crtc

namespace Registry

variable {α : Type}

/-- The largest capacity: half of the numbers a token can have. -/
def capacityLimit : Nat := UInt32.size / 2 - 1

/-- A registry without tokens, for at most `max` of them. -/
def new (max : Nat) : Registry α where
  next := 1
  max := max
  pending := .empty
  retired := .empty

/-- The most tokens that may be pending or retired. -/
def capacity (r : Registry α) : Nat := min r.max capacityLimit

/-- Whether the token is pending. -/
def isPending (r : Registry α) (t : Token) : Bool := r.pending.contains t

/-- Whether the token is pending or retired. -/
def occupies (r : Registry α) (t : Token) : Bool :=
  r.pending.contains t || r.retired.contains t

/-- The number of pending and retired tokens. -/
def occupied (r : Registry α) : Nat := r.pending.size + r.retired.size

/-- The token that is `n` places after the start of the search, if the number there is a token's
and the token is neither pending nor retired. -/
def candidate? (r : Registry α) (n : Nat) : Option Token :=
  (Token.ofUInt32? (r.next + UInt32.ofNat n)).filter fun t => !r.occupies t

/-- The first free token. Of `occupied + 2` consecutive numbers at most `occupied` belong to
tokens in flight and one is zero, so the search need not go further. -/
def free? (r : Registry α) : Option Token :=
  (List.range (r.occupied + 2)).findSome? r.candidate?

/-- Makes a free token pending for an event; none if the registry is full. The next search starts
behind the token. -/
def allocate (r : Registry α) (crtc : Crtc) (event : α) : Option (Token × Registry α) :=
  if r.capacity ≤ r.occupied then none
  else r.free?.map fun t =>
    (t, { r with next := t.raw + 1, pending := r.pending.insert t ⟨crtc, event⟩ })

section Allocate

variable {r s : Registry α} {t : Token} {crtc : Crtc} {event : α}

/-- A number is only a candidate while no flip has its token. -/
theorem occupies_of_candidate? {n : Nat} (h : r.candidate? n = some t) : r.occupies t = false := by
  simp only [candidate?, Option.filter_eq_some_iff] at h
  simpa using h.2

/-- The token that is found is free. -/
theorem occupies_of_free? (h : r.free? = some t) : r.occupies t = false := by
  obtain ⟨n, -, hn⟩ := List.exists_of_findSome?_eq_some h
  exact occupies_of_candidate? hn

/-- An allocation succeeds only below the capacity and with a token that was free. -/
theorem of_allocate_eq_some (h : r.allocate crtc event = some (t, s)) :
    r.occupied < r.capacity ∧ r.occupies t = false ∧
      s = { r with next := t.raw + 1, pending := r.pending.insert t ⟨crtc, event⟩ } := by
  simp only [allocate] at h
  split at h
  · simp at h
  · rename_i hroom
    simp only [Option.map_eq_some_iff, Prod.mk.injEq] at h
    obtain ⟨u, hu, rfl, rfl⟩ := h
    exact ⟨by omega, occupies_of_free? hu, rfl⟩

/-- An allocation adds one token. -/
theorem occupied_of_allocate (h : r.allocate crtc event = some (t, s)) :
    s.occupied = r.occupied + 1 := by
  obtain ⟨-, hfree, rfl⟩ := of_allocate_eq_some h
  have hp : r.pending.contains t = false := by
    simp only [occupies, Bool.or_eq_false_iff] at hfree
    exact hfree.1
  simp only [occupied, Table.size_insert _ hp]
  omega

end Allocate

/-- Removes a pending token and hands out its event. -/
def resolve (r : Registry α) (t : Token) : Except Violation (α × Registry α) :=
  match r.pending.find? t with
  | some p => .ok (p.event, { r with pending := r.pending.erase t })
  | none => .error (.notPending t)

/-- Retires the pending tokens of a controller and hands out their events, in no specified order:
here in that of the table. -/
def retirePipe (r : Registry α) (crtc : Crtc) : List α × Registry α :=
  let taken := r.pending.take fun _ p => p.crtc == crtc
  (taken.1.map fun e => e.2.event,
    { r with
      pending := taken.2
      retired := taken.1.foldl (fun retired e => retired.insert e.1 e.2.crtc) r.retired })

/-- Forgets a retired token; none if it is not retired. -/
def forget? (r : Registry α) (t : Token) : Option (Registry α) :=
  if r.retired.contains t then some { r with retired := r.retired.erase t } else none

/-- Forgets a retired token if it is one. -/
def forget (r : Registry α) (t : Token) : Registry α :=
  (r.forget? t).getD r

/-- Forgets the retired tokens of a controller and counts them. The hardware accepts a new flip
on a controller only after it has reported or dropped every earlier one. -/
def forgetPipe (r : Registry α) (crtc : Crtc) : Nat × Registry α :=
  let taken := r.retired.take fun _ c => c == crtc
  (taken.1.length, { r with retired := taken.2 })

end Registry

end PageFlip
