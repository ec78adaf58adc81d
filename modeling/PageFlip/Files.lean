import PageFlip.Failure.Errno

/-!
# Files

A tree of files and folders and the rules by which a path leads through it. A path is a sequence of
bytes; its names stand between slashes. It is followed from a place in the tree: from the root if it
begins with a slash, and otherwise from the place itself.
-/

namespace PageFlip

/-- A path, written in bytes. -/
abbrev Path := List UInt8

namespace Path

/-- The byte that separates names. -/
def slash : UInt8 := 0x2f

/-- The byte that no path may hold. -/
def nul : UInt8 := 0

/-- The greatest length of a path. -/
def limit : Nat := 4095

/-- The greatest length of a name. -/
def nameLimit : Nat := 255

/-- The name that every folder has for itself. -/
def here : List UInt8 := [0x2e]

/-- The name that every folder has for the folder around it. -/
def above : List UInt8 := [0x2e, 0x2e]

/-- The names in a path. -/
def names (path : Path) : List (List UInt8) :=
  (path.splitOn slash).filter fun name => !name.isEmpty

/-- Whether a path is followed from the root. -/
def isAbsolute (path : Path) : Bool := path.head? == some slash

/-- Whether a path can only lead to a folder. -/
def namesFolder (path : Path) : Bool := path.getLast? == some slash

/-- Refuses a path that is empty or too long. -/
def check (path : Path) : Except Errno Unit :=
  if path.isEmpty then .error .noEntry
  else if limit < path.length then .error .nameTooLong
  else .ok ()

end Path

/-- A file or a folder. -/
inductive FileNode
  | file (bytes : List UInt8)
  | folder (entries : List (List UInt8 × FileNode))

/-- A place in a tree: what is there, and the folders around it, the nearest first. -/
structure Place where
  node : FileNode
  around : List FileNode

namespace Place

/-- The place around a place. The root is around itself. -/
def outer (p : Place) : Place :=
  match p.around with
  | [] => p
  | n :: rest => ⟨n, rest⟩

/-- The root of the tree that a place is in. -/
def root (p : Place) : Place := ⟨p.around.getLastD p.node, []⟩

/-- The place that has a name in a folder. -/
def entry (p : Place) (name : List UInt8) : Except Errno (Option Place) :=
  match p.node with
  | .file _ => .error .notDirectory
  | .folder entries =>
    if name = Path.here then .ok (some p)
    else if name = Path.above then .ok (some p.outer)
    else if Path.nameLimit < name.length then .error .nameTooLong
    else .ok ((entries.find? fun e => e.1 == name).map fun e => ⟨e.2, p.node :: p.around⟩)

/-- Follows names from a place. Returns where they lead, or nothing if only the last of them is
missing. -/
def walk (p : Place) : List (List UInt8) → Except Errno (Option Place)
  | [] => .ok (some p)
  | name :: rest =>
    match p.entry name with
    | .error e => .error e
    | .ok (some q) => q.walk rest
    | .ok none => if rest.isEmpty then .ok none else .error .noEntry

/-- The place from which a path is followed. -/
def start (p : Place) (path : Path) : Place := if path.isAbsolute then p.root else p

/-- The bytes of the file at a path. -/
def read (p : Place) (path : Path) : Except Errno (List UInt8) := do
  path.check
  match (← (p.start path).walk path.names).map Place.node with
  | none => throw .noEntry
  | some (.folder _) => throw .isDirectory
  | some (.file bytes) => if path.namesFolder then throw .notDirectory else pure bytes

/-- Whether a file at a path can be opened to be written, and is created if it is missing. -/
def canWrite (p : Place) (path : Path) : Except Errno Unit := do
  path.check
  if path.namesFolder then
    -- No file is created under such a path. The last name is not even looked for, but the folder
    -- that it would stand in is.
    match (← (p.start path).walk path.names.dropLast).map Place.node with
    | none => throw .noEntry
    | some (.file _) => throw .notDirectory
    | some (.folder _) => throw .isDirectory
  else
    match (← (p.start path).walk path.names).map Place.node with
    | some (.folder _) => throw .isDirectory
    | _ => pure ()

/-- A root is its own root. -/
@[simp] theorem root_root (p : Place) : p.root.root = p.root := rfl

/-- The directory around a place is under the same root. -/
@[simp] theorem root_outer (p : Place) : p.outer.root = p.root := by
  obtain ⟨n, around⟩ := p
  cases around with
  | nil => rfl
  | cons m rest => exact congrArg (Place.mk · []) List.getLastD_cons.symm

/-- The place under a name is in the same tree. -/
theorem root_of_entry {p q : Place} {name : List UInt8} (h : p.entry name = .ok (some q)) :
    q.root = p.root := by
  unfold entry at h
  split at h
  · cases h
  · split at h
    · cases h
      rfl
    split at h
    · cases h
      exact p.root_outer
    split at h
    · cases h
    -- What is found in the folder has the folder next around it.
    · simp only [Except.ok.injEq, Option.map_eq_some_iff] at h
      obtain ⟨e, -, rfl⟩ := h
      exact congrArg (Place.mk · []) List.getLastD_cons

end Place

end PageFlip
