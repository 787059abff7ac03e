import Overseer.Files.FileSystem

/-! ## Changing files

Making directories, writing files and making links. The first two may be refused to a user; where no
user is given, nothing is refused. -/

namespace Overseer

/-- What a user may change: which files, and the directories in which something may be made. -/
abbrev Access := Place → Bool

/-- Nothing is refused. -/
def Access.full : Access := fun _ => true

namespace FileSystem

/-- The last of some names and those before it. -/
def splitLast? (xs : List Bytes) : Option (List Bytes × Bytes) :=
  xs.getLast?.map fun x => (xs.dropLast, x)

/-- Whether a name stands for a directory that is there already. -/
def isDots (name : Bytes) : Bool := name = [Path.dot] || name = [Path.dot, Path.dot]

-- ---------------------------------------------------------------------------
-- Directories
-- ---------------------------------------------------------------------------

/-- The place for something new with a given path. A link at the end is not followed. -/
def vacancy (fs : FileSystem) (p : Path) (user : Access := .full) : Except OsError Place :=
  match checkPath p, splitLast? (names p) with
  | .error e, _ => .error e
  | .ok (), none => .error .exists
  | .ok (), some (before, name) =>
    match fs.walk linkLimit (origin fs.workingDirectory p) before with
    | .error e => .error e
    | .ok (directory, _) =>
      if !fs.isDirectoryAt directory then .error .notDirectory
      else if isDots name then .error .exists
      else if nameLimit < name.length then .error .nameTooLong
      else if (fs.get? (name :: directory)).isSome then .error .exists
      else if !user directory then .error .permission
      else .ok (name :: directory)

/-- Makes a directory. -/
def makeDirectory (fs : FileSystem) (p : Path) (user : Access := .full) :
    Except OsError FileSystem :=
  (fs.vacancy p user).map fun place => fs.set place .directory

/-- Makes a directory; that it is there already is no error. -/
def ensureDirectory (fs : FileSystem) (p : Path) (user : Access := .full) :
    Except OsError FileSystem :=
  match fs.makeDirectory p user with
  | .ok fs => .ok fs
  | .error .exists => if fs.isDirectory p then .ok fs else .error .exists
  | .error e => .error e

/-- Makes the first of some paths a directory, where each path is followed by its parent. Parents
    are made only when they are missing. What was made stays when a later step fails. -/
def ensureChain (user : Access) (fs : FileSystem) : List Path → Except OsError Unit × FileSystem
  | [] => (.ok (), fs)
  | p :: parents =>
    match fs.ensureDirectory p user with
    | .ok fs => (.ok (), fs)
    | .error .noEntry =>
      match ensureChain user fs parents with
      | (.error e, fs) => (.error e, fs)
      | (.ok (), fs) =>
        match fs.ensureDirectory p user with
        | .ok fs => (.ok (), fs)
        | .error e => (.error e, fs)
    | .error e => (.error e, fs)

/-- Makes a directory and the parents that it lacks. -/
def ensureDirectories (fs : FileSystem) (p : Path) (user : Access := .full) :
    Except OsError Unit × FileSystem :=
  fs.ensureChain user p.ancestors

-- ---------------------------------------------------------------------------
-- Files
-- ---------------------------------------------------------------------------

/-- The mode of a file that writing makes. -/
def newFileMode : Nat := 0o644

/-- The place of the file that writing to a path changes or makes. A link at the end of the path is
    followed, at most `hops` times in a row, and need not lead to anything yet. -/
def writePlace (fs : FileSystem) : Nat → Nat → Place → Path → Except OsError Place
  | 0, _, _, _ => .error .tooManyLinks
  | hops + 1, budget, start, p =>
    match splitLast? (names p) with
    | none => .error .isDirectory
    | some (before, name) =>
      match fs.walk budget (origin start p) before with
      | .error e => .error e
      | .ok (directory, left) =>
        if !fs.isDirectoryAt directory then .error .notDirectory
        else if isDots name || p.endsInSlash then .error .isDirectory
        else if nameLimit < name.length then .error .nameTooLong
        else
          match fs.get? (name :: directory) with
          | some .directory => .error .isDirectory
          | some (.link target) =>
            if left = 0 then .error .tooManyLinks
            else writePlace fs hops (left - 1) directory target
          | _ => .ok (name :: directory)

/-- The mode of the file at a place, or of a new file if there is none. -/
def modeAt (fs : FileSystem) (place : Place) : Nat :=
  match fs.get? place with
  | some (.file mode _) => mode
  | _ => newFileMode

/-- Whether a user may write the file at a place, or make it there if it is missing. -/
def mayWrite (fs : FileSystem) (user : Access) (place : Place) : Bool :=
  if (fs.get? place).isSome then user place else user place.tail

/-- Replaces the content of a file, which is made if it is missing. -/
def write (fs : FileSystem) (p : Path) (content : Bytes) (user : Access := .full) :
    Except OsError FileSystem :=
  match checkPath p with
  | .error e => .error e
  | .ok () =>
    match fs.writePlace (linkLimit + 1) linkLimit fs.workingDirectory p with
    | .error e => .error e
    | .ok place =>
      if !fs.mayWrite user place then .error .permission
      else .ok (fs.set place (.file (fs.modeAt place) content))

/-- Makes a link. -/
def makeLink (fs : FileSystem) (p target : Path) : Except OsError FileSystem :=
  if p.endsInSlash then .error .noEntry
  else (fs.vacancy p).map fun place => fs.set place (.link target)

/-- Gives the file at a path another mode. -/
def setMode (fs : FileSystem) (p : Path) (mode : Nat) : Except OsError FileSystem :=
  match fs.resolve p with
  | .error e => .error e
  | .ok place =>
    match fs.get? place with
    | some (.file _ content) => .ok (fs.set place (.file mode content))
    | _ => .ok fs

-- ---------------------------------------------------------------------------
-- Listing
-- ---------------------------------------------------------------------------

/-- The names in a directory. -/
def entries (fs : FileSystem) (directory : Place) : List Bytes :=
  fs.nodes.filterMap fun e =>
    match e.1 with
    | name :: place => if place = directory then some name else none
    | [] => none

/-- The paths of everything below a directory, whose own path is `above`, down to a depth.
    Directories have a slash at the end; links to directories are listed like directories. -/
def listBelow (fs : FileSystem) : Nat → Path → Place → List Path
  | 0, _, _ => []
  | depth + 1, above, directory =>
    (fs.entries directory).flatMap fun name =>
      let p := above ++ name
      match fs.walk linkLimit directory [name] with
      | .ok (place, _) =>
        if fs.isDirectoryAt place then
          (p ++ [Path.slash]) :: listBelow fs depth (p ++ [Path.slash]) place
        else [p]
      | .error _ => [p]

/-- The paths of everything below the working directory. -/
def list (fs : FileSystem) : List Path :=
  fs.listBelow (fs.nodes.length + 1) [] fs.workingDirectory

end FileSystem

end Overseer
