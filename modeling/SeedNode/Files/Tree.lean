import SeedNode.Files.Path

/-!
# File trees

A tree gives each location a file with its mode, a directory, or a symbolic link, and says which
directory is the working one. `Tree.resolve` follows a path through it one name at a time, as the
system does: a link in the middle of a path is always followed, one at the end only for some
purposes, and after forty links it gives up. Everything else here is stated through `resolve`,
`insert` and `erase`.
-/

namespace SeedNode

/-- What stands at a location. -/
inductive Entry where
  | file (mode : Nat) (content : Bytes)
  | directory
  | link (target : String)
  deriving Repr, DecidableEq

/-- The names that lead from the root to a location, outermost first. -/
abbrev Location := List String

/-- What stands at each location. -/
structure Tree where
  home : Location
  entries : List (Location × Entry)
  deriving Repr, DecidableEq

namespace Tree

/-- The directories that every system has, as far as a daemon may be told to use them. -/
def standardDirectories : List Location :=
  [["bin"], ["dev"], ["etc"], ["home"], ["lib"], ["media"], ["mnt"], ["opt"], ["proc"], ["root"],
   ["run"], ["sbin"], ["srv"], ["sys"], ["tmp"], ["usr"], ["usr", "bin"], ["usr", "lib"],
   ["usr", "local"], ["usr", "share"], ["var"], ["var", "cache"], ["var", "lib"], ["var", "log"],
   ["var", "run"], ["var", "tmp"]]

/-- The tree of a system with an empty working directory. That directory is a temporary one, and its
name is one that no path can spell: it is where relative paths begin, and nothing else leads there.
The null device reads as an empty file. -/
def empty : Tree :=
  let home := ["tmp", "."]
  ⟨home, (home, .directory) :: (["dev", "null"], .file 0o666 []) ::
    standardDirectories.map fun loc => (loc, .directory)⟩

/-- What stands at a location; the root itself is always there. -/
def find? (t : Tree) (loc : Location) : Option Entry :=
  if loc = [] then some .directory else t.entries.lookup loc

/-- Puts an entry at a location, in place of what stood there. -/
def insert (t : Tree) (loc : Location) (e : Entry) : Tree :=
  { t with entries := (loc, e) :: t.entries.filter fun entry => entry.1 != loc }

def erase (t : Tree) (loc : Location) : Tree :=
  { t with entries := t.entries.filter fun entry => entry.1 != loc }

/-! ## Following a path -/

/-- Where a path leads: to an entry, or to a free name in a directory. -/
inductive Spot where
  | found (loc : Location) (e : Entry)
  | free (loc : Location)
  deriving Repr, DecidableEq

/-- The longest name, in bytes, that a directory takes. -/
def maxName : Nat := 255

/-- The longest path, in bytes, that the system takes, with the null byte that ends it. -/
def maxPath : Nat := 4096

/-- The number of links that one path may lead through. -/
def maxLinks : Nat := 40

/-- What a path is followed for. -/
inductive Purpose where
  /-- The entry itself: a link at the end is not followed. -/
  | entry
  /-- What a link at the end leads to. -/
  | target
  /-- What a link at the end leads to, to be made a file if nothing stands there. -/
  | creation
  deriving Repr, DecidableEq

/-- The names that a link target leads through. A final slash or dot asks for a directory: it
stands here as an empty name or a single dot at the end. -/
def targetNames (target : String) : List String :=
  let names := Path.namesOf target
  match (Path.pieces target.toList).getLast? with
  | some [] => names ++ [""]
  | some ['.'] => names ++ ["."]
  | _ => names

/-- Follows names from a directory. `links` is how many links may still be followed. No file is
made under a name that a slash follows. -/
def walk (t : Tree) (purpose : Purpose) (links : Nat) (here : Location) :
    List String → Except Errno Spot
  | [] => .ok (.found here .directory)
  | name :: rest =>
    if name = "" ∨ name = "." then walk t purpose links here rest
    else if name = ".." then walk t purpose links here.dropLast rest
    else if purpose = .creation ∧ rest = [""] then .error .isDirectory
    else if maxName < Utf8.size name then .error .nameTooLong
    else
      let next := here ++ [name]
      match t.find? next with
      | none => if rest = [] then .ok (.free next) else .error .noEntry
      | some .directory => walk t purpose links next rest
      | some (.file mode content) =>
        if rest = [] then .ok (.found next (.file mode content)) else .error .notDirectory
      | some (.link target) =>
        if rest = [] ∧ purpose = .entry then .ok (.found next (.link target))
        else match links with
          | 0 => .error .linkLoop
          | left + 1 =>
            let start := if target.startsWith "/" then [] else here
            walk t purpose left start (targetNames target ++ rest)
termination_by names => (links, names.length)

def start (t : Tree) (p : Path) : Location :=
  if p.root = "" then t.home else []

/-- Where a path leads. -/
def resolve (t : Tree) (p : Path) (purpose : Purpose) : Except Errno Spot :=
  if maxPath ≤ Utf8.size p.text then .error .nameTooLong
  else t.walk purpose maxLinks (t.start p) p.names

/-- Where a path leads, with a refusal that names the path. -/
def resolveNamed (t : Tree) (p : Path) (purpose : Purpose) : Except Failure Spot :=
  if p.hasNull then .error (.fault .embeddedNull)
  else match t.resolve p purpose with
    | .ok spot => .ok spot
    | .error e => .error (.os (.ofErrno e [p.text]))

/-! ## Questions -/

/-- Whether something stands where a path leads. A path that leads nowhere for want of a directory
or through a loop does not; any other refusal is passed on. -/
def pathExists (t : Tree) (p : Path) : Except Failure Bool :=
  if p.hasNull then .ok false
  else match t.resolve p .target with
    | .ok (.found _ _) => .ok true
    | .ok (.free _) => .ok false
    | .error .noEntry | .error .notDirectory | .error .linkLoop => .ok false
    | .error e => .error (.os (.ofErrno e [p.text]))

def isFile (t : Tree) (p : Path) : Bool :=
  match t.resolve p .target with
  | .ok (.found _ (.file _ _)) => true
  | _ => false

def read (t : Tree) (p : Path) : Except Failure Bytes := do
  match ← t.resolveNamed p .target with
  | .found _ (.file _ content) => return content
  | .found _ _ => throw (.os (.ofErrno .isDirectory [p.text]))
  | .free _ => throw (.os (.ofErrno .noEntry [p.text]))

/-! ## Changes -/

/-- The permission bits that are withheld from every new file. -/
def withheld : Nat := 0o022

/-- The mode of a new file that was asked for with `mode`. -/
def newMode (mode : Nat) : Nat :=
  mode &&& (0o7777 - withheld)

/-- Opens a file for writing, making it if its name is free: where it is, and the tree with it.
An existing file keeps its mode and content. -/
def openForWriting (t : Tree) (p : Path) (mode : Nat) : Except Failure (Location × Tree) := do
  match ← t.resolveNamed p .creation with
  | .found loc (.file _ _) => return (loc, t)
  | .found _ _ => throw (.os (.ofErrno .isDirectory [p.text]))
  | .free loc => return (loc, t.insert loc (.file (newMode mode) []))

def setContent (t : Tree) (loc : Location) (content : Bytes) : Tree :=
  match t.find? loc with
  | some (.file mode _) => t.insert loc (.file mode content)
  | _ => t

/-- The content of the file at a location, or nothing if no file is there. -/
def contentAt (t : Tree) (loc : Location) : Bytes :=
  match t.find? loc with
  | some (.file _ content) => content
  | _ => []

/-- Takes away the file or link that a path names; a link is not followed. -/
def remove (t : Tree) (p : Path) : Except Failure Tree := do
  match ← t.resolveNamed p .entry with
  | .found _ .directory => throw (.os (.ofErrno .isDirectory [p.text]))
  | .found loc _ => return t.erase loc
  | .free _ => throw (.os (.ofErrno .noEntry [p.text]))

/-- Moves a file or link to another name, in place of a file or link there. Neither end is
followed. -/
def rename (t : Tree) (source target : Path) : Except Failure Tree :=
  let refuse (e : Errno) : Except Failure Tree :=
    .error (.os (.ofErrno e [source.text, target.text]))
  if target.name = ".." then refuse .busy
  else match t.resolve source .entry, t.resolve target .entry with
    | .error e, _ | _, .error e => refuse e
    | .ok (.free _), _ => refuse .noEntry
    | .ok (.found _ .directory), _ => refuse .busy
    | _, .ok (.found _ .directory) => refuse .isDirectory
    | .ok (.found old e), .ok (.found new _) | .ok (.found old e), .ok (.free new) =>
      if old = new then .ok t else .ok ((t.erase old).insert new e)

/-! ## Building and listing -/

/-- Makes the first so many directories that a path leads through, where they are not there yet. -/
def makeDirectories (t : Tree) (p : Path) (count : Nat) : Tree :=
  (List.range (count + 1)).foldl (fun t depth =>
    match t.walk .target maxLinks (t.start p) (p.names.take depth) with
    | .ok (.free loc) => t.insert loc .directory
    | _ => t) t

/-- Makes the directories above the end of a path, where they are not there yet. -/
def makeParents (t : Tree) (p : Path) : Tree :=
  t.makeDirectories p (p.names.length - 1)

/-- Puts an entry at a path and makes the directories above it. A link at the end is replaced. -/
def place (t : Tree) (p : Path) (e : Entry) : Tree :=
  let t := t.makeParents p
  match t.resolve p .entry with
  | .ok (.found loc _) | .ok (.free loc) => t.insert loc e
  | .error _ => t

/-- Puts a file where a path leads. A file that is there keeps its mode unless one is given. -/
def placeFile (t : Tree) (p : Path) (mode : Option Nat) (content : Bytes) : Tree :=
  let t := t.makeParents p
  match t.resolve p .creation with
  | .ok (.found loc (.file old _)) => t.insert loc (.file (mode.getD old) content)
  | .ok (.free loc) => t.insert loc (.file (mode.getD (newMode 0o666)) content)
  | _ => t

/-- The entries below the working directory with the texts of their paths, ordered by those
texts. -/
def listing (t : Tree) : List (String × Entry) :=
  let below := t.entries.filter fun entry => t.home.isPrefixOf entry.1 && entry.1 != t.home
  (below.map fun entry =>
    ("/".intercalate (entry.1.drop t.home.length), entry.2)).mergeSort fun a b => a.1 ≤ b.1

end Tree

/-- An operation on files that may fail; a failure keeps what was changed before it. -/
abbrev FileM := ExceptT Failure (StateM Tree)

namespace FileM

def ask {α : Type} (f : Tree → Except Failure α) : FileM α := do
  match f (← get) with
  | .ok a => return a
  | .error e => throw e

/-- Changes the files, or fails and leaves them. -/
def change (f : Tree → Except Failure Tree) : FileM Unit := do
  match f (← get) with
  | .ok t => set t
  | .error e => throw e

end FileM

end SeedNode
