import Overseer.Files.OsError
import Overseer.Files.Path

/-! ## File systems

A file system is a tree of directories, regular files and symbolic links, together with the
directory that relative paths begin at. A place in the tree is given by the names that lead to it.
Paths are followed as the system does: links are replaced by their targets, but only so many. -/

namespace Overseer

/-- The names from a place up to the root, its own first. -/
abbrev Place := List Bytes

inductive Node where
  | file (mode : Nat) (content : Bytes)
  | directory
  | link (target : Path)
deriving DecidableEq

structure FileSystem where
  /-- All nodes but the root. -/
  nodes : List (Place × Node)
  workingDirectory : Place
deriving DecidableEq

namespace FileSystem

/-- The node at a place. -/
def get? (fs : FileSystem) (place : Place) : Option Node :=
  if place.isEmpty then some .directory else fs.nodes.lookup place

/-- The tree with a node put at a place. -/
def set (fs : FileSystem) (place : Place) (n : Node) : FileSystem :=
  { fs with nodes := (place, n) :: fs.nodes.filter fun e => e.1 ≠ place }

def isDirectoryAt (fs : FileSystem) (place : Place) : Bool := fs.get? place = some .directory

-- ---------------------------------------------------------------------------
-- Following paths
-- ---------------------------------------------------------------------------

/-- The most links that are followed for one path. -/
def linkLimit : Nat := 40

/-- The most bytes of a name. -/
def nameLimit : Nat := 255

/-- The fewest bytes of a path that is too long. -/
def pathLimit : Nat := 4096

/-- Where following a path has come to: its place, or a link in `directory` before `rest`. -/
inductive Stop where
  | arrived (place : Place)
  | link (directory : Place) (target : Path) (rest : List Bytes)

/-- Follows names from a directory up to the first link. -/
def descend (fs : FileSystem) : Place → List Bytes → Except OsError Stop
  | place, [] => .ok (.arrived place)
  | place, name :: rest =>
    if !fs.isDirectoryAt place then .error .notDirectory
    else if name = [Path.dot] then descend fs place rest
    else if name = [Path.dot, Path.dot] then descend fs place.tail rest
    else if nameLimit < name.length then .error .nameTooLong
    else
      match fs.get? (name :: place) with
      | none => .error .noEntry
      | some (.link target) => .ok (.link place target rest)
      | some _ => descend fs (name :: place) rest

/-- The place that a path begins at. -/
def origin (directory : Place) (p : Path) : Place := if p.isAbsolute then [] else directory

/-- The names of a path. -/
def names (p : Path) : List Bytes := p.pieces.filter fun s => !s.isEmpty

/-- The names of a path that has to lead somewhere: with a slash at its end it leads to a
    directory. -/
def steps (p : Path) : List Bytes := if p.endsInSlash then names p ++ [[Path.dot]] else names p

/-- Follows names and all links on the way, at most `budget` of them. What comes with the place is
    how many more links may be followed. -/
def walk (fs : FileSystem) : Nat → Place → List Bytes → Except OsError (Place × Nat)
  | budget, place, todo =>
    match fs.descend place todo, budget with
    | .error e, _ => .error e
    | .ok (.arrived place), left => .ok (place, left)
    | .ok (.link _ _ _), 0 => .error .tooManyLinks
    | .ok (.link directory target rest), budget + 1 =>
      walk fs budget (origin directory target) (steps target ++ rest)

/-- Refuses paths that no place can have. -/
def checkPath (p : Path) : Except OsError Unit :=
  if 0 ∈ p then .error .nulInPath
  else if p.isEmpty then .error .noEntry
  else if pathLimit ≤ p.length then .error .nameTooLong
  else .ok ()

/-- The place of what a path leads to. -/
def resolve (fs : FileSystem) (p : Path) : Except OsError Place :=
  match checkPath p with
  | .error e => .error e
  | .ok () => (fs.walk linkLimit (origin fs.workingDirectory p) (steps p)).map (·.1)

/-- The node that a path leads to. -/
def lookUp (fs : FileSystem) (p : Path) : Except OsError Node :=
  match fs.resolve p with
  | .error e => .error e
  | .ok place => (fs.get? place).elim (.error .noEntry) .ok

def isDirectory (fs : FileSystem) (p : Path) : Bool :=
  match fs.lookUp p with
  | .ok .directory => true
  | _ => false

/-- The content of the file that a path leads to. -/
def read (fs : FileSystem) (p : Path) : Except OsError Bytes :=
  match fs.lookUp p with
  | .ok (.file _ content) => .ok content
  | .ok _ => .error .isDirectory
  | .error e => .error e

/-- Whether a path leads to a regular file that someone may execute. -/
def isExecutable (fs : FileSystem) (p : Path) : Bool :=
  match fs.lookUp p with
  | .ok (.file mode _) => mode &&& 0o111 ≠ 0
  | _ => false

end FileSystem

end Overseer
