import DocumentStore.Error
import DocumentStore.FileTree
import DocumentStore.Value.Reader

/-!
# Hosts — where snapshots are kept

A host holds one snapshot, which it may be asked for (`Host.load?`) and
which it is given to replace (`Host.persist`). Replacing may fail, which
the store never hears of. There are two hosts: one in memory, which also
remembers every snapshot it was given, and one in a file of a directory
tree, which writes a snapshot to a temporary file beside its own and then
moves that over it.
-/

namespace DocumentStore

/-! ## In memory -/

/-- A host in memory. -/
structure MemoryHost where
  /-- What is loaded: the snapshot it was made with or given last. -/
  current : Option Value
  /-- Every snapshot it accepted, oldest first. -/
  history : List Value
  /-- Whether it refuses snapshots. -/
  failing : Bool

namespace MemoryHost

/-- A host that loads a snapshot, or none. -/
def new (snapshot : Option Value) : MemoryHost := ⟨snapshot, [], false⟩

/-- Takes a snapshot, and says whether it was accepted. -/
def persist (h : MemoryHost) (v : Value) : MemoryHost × Bool :=
  if h.failing then (h, false)
  else ({ h with current := some v, history := h.history ++ [v] }, true)

end MemoryHost

/-! ## In a file -/

/-- A host in a file of a directory tree. -/
structure FileHost where
  tree : Tree
  path : Path

namespace FileHost

/-- How deep arrays and objects may lie in each other in a file. -/
def maxLevels : Nat := 127

/-- What the name of the file has added for the time it is written. -/
def temporarySuffix : String := ".tmp"

/-- The snapshot in the file: none if the file is missing, an error if it
cannot be opened or holds no value. -/
def load? (h : FileHost) : Except StoreError (Option Value) :=
  match h.tree.find h.path with
  | .error .missing => .ok none
  | .error .refused => .error .io
  | .ok (.text content) =>
    match Value.read? maxLevels content with
    | some v => .ok (some v)
    | none => .error .serialization
  | .ok _ => .error .serialization

/-- Takes a snapshot, and says whether it was accepted. Whether the file may
be written is found out only when the temporary file is moved to its place,
so that a temporary file may stay behind. -/
def persist (h : FileHost) (v : Value) : FileHost × Bool :=
  match h.tree.target? (h.path.withSuffix temporarySuffix) with
  | none => (h, false)
  | some temporary =>
    let written := h.tree.put temporary (.text v.print)
    match written.target? h.path with
    | none => ({ h with tree := written }, false)
    | some l => ({ h with tree := (written.remove temporary).put l (.text v.print) }, true)

/-- The text of the file, if it is there and is one. -/
def content? (h : FileHost) : Option String :=
  match h.tree.find h.path with
  | .ok (.text content) => some content
  | _ => none

end FileHost

/-! ## Either -/

/-- A host. -/
inductive Host where
  | memory (h : MemoryHost)
  | file (h : FileHost)

namespace Host

/-- The snapshot the host holds. -/
def load? : Host → Except StoreError (Option Value)
  | .memory h => .ok h.current
  | .file h => h.load?

/-- Gives the host a snapshot, and says whether it was accepted. -/
def persist : Host → Value → Host × Bool
  | .memory h, v => let (h, accepted) := h.persist v; (.memory h, accepted)
  | .file h, v => let (h, accepted) := h.persist v; (.file h, accepted)

/-- Makes a host in memory refuse snapshots, or accept them again. -/
def setFailing : Host → Bool → Host
  | .memory h, failing => .memory { h with failing }
  | .file h, _ => .file h

end Host

end DocumentStore
