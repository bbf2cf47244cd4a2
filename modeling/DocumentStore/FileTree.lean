/-!
# Directory trees

Directories and files under names, and the paths by which they are found.
A path is followed step by step from a base directory (`Tree.follow`): a
step goes to a name, stays where it is, or goes back to the directory
above, and only from a directory. The base lies in a directory of its own,
so that a path may lead out of it.
-/

namespace DocumentStore

/-- What lies at a location. -/
inductive Item where
  | directory
  | text (content : String)
  /-- A file whose bytes are no text. -/
  | bytes
  deriving DecidableEq, Repr

/-- The names that lead to an item from the outermost directory. -/
abbrev Location := List String

/-- A path as it is written: the steps between its slashes. -/
abbrev Path := List String

namespace Path

/-- The path of a text. -/
def ofText (text : String) : Path := text.splitOn "/"

/-- The largest number of bytes of a name. -/
def maxNameBytes : Nat := 255

/-- The largest number of bytes of a path. -/
def maxBytes : Nat := 4079

/-- Whether a path can be followed at all: it is not too long, and no step
holds the character that ends a path. -/
def isPossible (path : Path) : Bool :=
  (String.intercalate "/" path).utf8ByteSize ≤ maxBytes
    && path.all fun step => !step.toList.contains '\x00'

/-- Whether a step stays where it is. -/
def stays (step : String) : Bool := step == "" || step == "."

/-- Whether a step is a name. -/
def isName (step : String) : Bool := !stays step && step != ".."

/-- The path beside a path, its name with something added. A path without a
name of its own, since it goes back at its end, gets what is added as a
name; a path that stays at the base is beside the base. -/
def withSuffix (suffix : String) (path : Path) : Path :=
  match path.reverse.dropWhile stays with
  | ".." :: _ => path ++ [suffix]
  | name :: above => above.reverse ++ [name ++ suffix]
  | [] => ["..", suffix]

end Path

/-- Why a path leads nowhere. -/
inductive PathFault where
  | missing
  /-- A step is not allowed where it is taken. -/
  | refused
  deriving DecidableEq, Repr

/-- The items of a directory tree. -/
abbrev Tree := List (Location × Item)

namespace Tree

/-- The directory that paths start from; its name is one that no step has. -/
def base : Location := [""]

/-- The item at a location; the base and what it lies in are directories. -/
def item? (t : Tree) (l : Location) : Option Item :=
  if l.isPrefixOf base then some .directory else t.lookup l

/-- Takes a step. -/
def step (t : Tree) (here : Location) (s : String) : Except PathFault Location :=
  match t.item? here with
  | none => .error .missing
  | some .directory =>
    if Path.stays s then .ok here
    else if s == ".." then .ok here.dropLast
    else if Path.maxNameBytes < s.utf8ByteSize then .error .refused
    else .ok (here ++ [s])
  | some _ => .error .refused

/-- Follows a path from the base; its last step may lead to a name that is
not there. -/
def follow (t : Tree) (path : Path) : Except PathFault Location :=
  if path.isPossible then path.foldlM t.step base else .error .refused

/-- The item that a path leads to. -/
def find (t : Tree) (path : Path) : Except PathFault Item := do
  match t.item? (← t.follow path) with
  | some item => return item
  | none => .error .missing

/-- The location at which a file may be written under a path: the path ends
with a name, and no directory bears it. -/
def target? (t : Tree) (path : Path) : Option Location :=
  if (path.getLast?.any Path.isName) = true then
    match t.follow path with
    | .ok l => if t.item? l = some .directory then none else some l
    | .error _ => none
  else none

/-- Takes the item at a location away. -/
def remove (t : Tree) (l : Location) : Tree := t.filter fun (l', _) => l' != l

/-- Puts an item at a location. -/
def put (t : Tree) (l : Location) (item : Item) : Tree := t.remove l ++ [(l, item)]

/-- Writes a file, if one may be written there. -/
def write (t : Tree) (path : Path) (item : Item) : Tree :=
  match t.target? path with
  | some l => t.put l item
  | none => t

/-- Makes the directories on the way along steps that are not there. -/
def makeOnWay (t : Tree) (here : Location) : Path → Tree
  | [] => t
  | s :: rest =>
    match t.step here s with
    | .error _ => t
    | .ok l => makeOnWay (if (t.item? l).isNone then t.put l .directory else t) l rest

/-- Makes the directories of a path that are not there. -/
def makeDirectories (t : Tree) (path : Path) : Tree :=
  if path.isPossible then t.makeOnWay base path else t

/-- The names in the base, in order of their code points. -/
def entries (t : Tree) : List String :=
  (t.filterMap fun (l, _) =>
    if l.dropLast = base then l.getLast? else none).mergeSort fun a b => a ≤ b

end Tree

end DocumentStore
