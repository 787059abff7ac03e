import Overseer.Files.FileSystem
import Overseer.Invocation
import Overseer.Toolchain.Probe

/-! ## Starting programs

Whether a program can be started, and the file that is started. A name with a slash in it is the
path of the file; any other is looked for on the search path, where a file that may not be executed
is passed over but remembered as the reason if nothing else is found. The arguments must not be too
long. The file has to be native code or a script whose interpreter can be started. -/

namespace Overseer

/-- Why a program cannot be started. -/
inductive StartFault where
  /-- The program or an argument has a NUL character. -/
  | nulByte
  | os (cause : OsError)
deriving DecidableEq

def StartFault.message : StartFault → Text
  | .nulByte => "nul byte found in provided data".toList
  | .os cause => cause.message

namespace Start

-- ---------------------------------------------------------------------------
-- Arguments
-- ---------------------------------------------------------------------------

/-- The first length in bytes that is too long for an argument. -/
def argumentBound : Nat := 0x20000

/-- How many bytes all arguments may take, with what each of them needs besides its text. -/
def argumentsLimit : Nat := 0x200000

/-- What an argument needs besides its text: an end mark and an address. -/
def argumentOverhead : Nat := 9

/-- Whether a program and its arguments are too long. -/
def tooLong (words : List Text) : Bool :=
  words.any (fun w => argumentBound ≤ Utf8.size w)
    || argumentsLimit < words.foldl (fun n w => n + Utf8.size w + argumentOverhead) 0

-- ---------------------------------------------------------------------------
-- Files
-- ---------------------------------------------------------------------------

/-- How native code begins. -/
def nativeMark : Bytes :=
  [0x7F, 0x45, 0x4C, 0x46, 2, 1, 1, 0, 0, 0, 0, 0, 0, 0, 0, 0, 3, 0, 0x3E, 0]

/-- How a script begins. -/
def scriptMark : Bytes := [0x23, 0x21]

/-- How much of a file is looked at. -/
def headSize : Nat := 256

def isSpace (b : UInt8) : Bool := b = 0x20 || b = 0x09

/-- Whether a byte ends the name of an interpreter on its line. -/
def endsName (b : UInt8) : Bool := isSpace b || b = 0

/-- The interpreter that a script names after its mark. Without the end of the line in sight the name
    has to be followed by something else, or it might go on. Zeros stand for what is behind the end
    of the file. -/
def interpreter? (content : Bytes) : Option Path :=
  let head := (content ++ List.replicate headSize 0).take headSize
  let ends := head.contains 0x0A
  let line := (head.drop scriptMark.length).takeWhile (· ≠ 0x0A)
  let rest := line.dropWhile isSpace
  let name := rest.takeWhile fun b => !endsName b
  if (if ends then line else line.dropLast).all isSpace then none
  else if !ends && name.length == rest.length then none
  else some name

/-- The most interpreters of interpreters. -/
def interpreterLimit : Nat := 5

/-- Whether the file at a path can be started with arguments that are or are not too long. An empty
    name of an interpreter stands for the working directory. -/
def checkFile (fs : FileSystem) (long : Bool) : Nat → Path → Except OsError Unit
  | 0, _ => .error .tooManyLinks
  | depth + 1, p =>
    match fs.lookUp p with
    | .error e => .error e
    | .ok (.file mode content) =>
      if mode &&& 0o111 = 0 then .error .permission
      else if long then .error .argumentsTooLong
      else if nativeMark.isPrefixOf content then .ok ()
      else if scriptMark.isPrefixOf content then
        match interpreter? content with
        | none => .error .execFormat
        | some [] => .error .permission
        | some q => checkFile fs long depth q
      else .error .execFormat
    | .ok _ => .error .permission

def check (fs : FileSystem) (long : Bool) (p : Path) : Except OsError Path :=
  (checkFile fs long (interpreterLimit + 1) p).map fun _ => p

-- ---------------------------------------------------------------------------
-- Search
-- ---------------------------------------------------------------------------

/-- Where programs are looked for when there is no search path. -/
def standardSearchPath : Bytes := Utf8.encode "/bin:/usr/bin".toList

/-- The first file of some that can be started. -/
def firstOf (fs : FileSystem) (long denied : Bool) : List Path → Except OsError Path
  | [] => .error (if denied then .permission else .noEntry)
  | p :: rest =>
    match check fs long p with
    | .ok p => .ok p
    | .error .permission => firstOf fs long true rest
    | .error .noEntry | .error .notDirectory => firstOf fs long denied rest
    | .error e => .error e

/-- The file that is started for a program. -/
def fileOf (fs : FileSystem) (searchPath : Option Bytes) (long : Bool) (program : Path) :
    Except OsError Path :=
  if program.isEmpty then .error .noEntry
  else if Path.slash ∈ program then check fs long program
  else if FileSystem.nameLimit < program.length then .error .nameTooLong
  else
    firstOf fs long false
      ((Probe.directories (searchPath.getD standardSearchPath)).map fun d => Path.join d program)

end Start

/-- The file that is started for an invocation. -/
def Invocation.start (fs : FileSystem) (searchPath : Option Bytes) (i : Invocation) :
    Except StartFault Path :=
  let words := i.program :: i.args
  if words.any fun s => s.contains '\x00' then .error .nulByte
  else
    match Start.fileOf fs searchPath (Start.tooLong words) (Utf8.encode i.program) with
    | .ok p => .ok p
    | .error e => .error (.os e)

end Overseer
