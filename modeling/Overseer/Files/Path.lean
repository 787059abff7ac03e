import Overseer.Text.Utf8

/-! ## Paths

A path is a string of bytes whose parts are separated by slashes. Empty parts, and the part `.`
anywhere but at the start of a relative path, mean nothing; what is left are the components of the
path. -/

namespace Overseer

abbrev Path := Bytes

namespace Path

def slash : UInt8 := 0x2F

def dot : UInt8 := 0x2E

@[simp] theorem dot_ne_slash : dot ≠ slash := by decide

@[simp] theorem zero_ne_slash : 0 ≠ slash := by decide

@[simp] theorem zero_ne_dot : 0 ≠ dot := by decide

/-- A path as it is shown. -/
def display (p : Path) : Text := Utf8.decode p

/-- The parts between the slashes, empty ones included. -/
def pieces (p : Path) : List Bytes := p.splitOn slash

def isAbsolute (p : Path) : Bool := p.head? = some slash

def endsInSlash (p : Path) : Bool := p.getLast? = some slash

/-- Whether a part means nothing after the first. -/
def isVoid (piece : Bytes) : Bool := piece.isEmpty || piece = [dot]

-- ---------------------------------------------------------------------------
-- Components
-- ---------------------------------------------------------------------------

inductive Component where
  | root
  | current
  | parent
  | name (s : Bytes)
deriving DecidableEq

/-- The component a part stands for. -/
def componentOf (piece : Bytes) : Component :=
  if piece = [dot, dot] then .parent else .name piece

/-- What a path begins with. -/
def leading (first : Bytes) : List Component :=
  if first = [dot] then [.current] else if first.isEmpty then [] else [componentOf first]

/-- The components of a path. -/
def components (p : Path) : List Component :=
  match p.pieces with
  | [] => []
  | first :: rest =>
    (if p.isAbsolute then [.root] else leading first)
      ++ (rest.filter fun s => !isVoid s).map componentOf

/-- Everything before the last component, if that is not the root. -/
def parent? (p : Path) : Option Path :=
  match p.pieces with
  | [] => none
  | first :: rest =>
    match rest.reverse.dropWhile isVoid with
    | [] => if first.isEmpty then none else some []
    | _ :: before =>
      match (before.dropWhile isVoid).reverse with
      | [] => if first.isEmpty then some [slash] else some first
      | kept => some (List.intercalate [slash] (first :: kept))

/-- The path, its parent, and so on, without the root and the empty path; at most `fuel` of them. -/
def ancestorsUpTo : Nat → Path → List Path
  | 0, _ => []
  | fuel + 1, p =>
    match p.parent? with
    | none => []
    | some q => p :: ancestorsUpTo fuel q

/-- The path, its parent, and so on. Each is shorter than the one before. -/
def ancestors (p : Path) : List Path := ancestorsUpTo (p.length + 1) p

/-- A name inside a directory. An absolute name stands for itself. -/
def join (directory name : Path) : Path :=
  if name.isAbsolute then name
  else if directory.isEmpty || directory.endsInSlash then directory ++ name
  else directory ++ slash :: name

end Path

end Overseer
