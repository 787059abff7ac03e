import Overseer.Files.FileSystem

/-! ## Finding programs

A name of more than one component is taken as it is; any other is looked for in the directories of
the search path, in order. What is found is a regular file that someone may execute. -/

namespace Overseer

/-- How names of programs are answered with their paths. -/
abbrev Probe := Text → Option Path

namespace Probe

/-- Stands between the directories of a search path. -/
def separator : UInt8 := 0x3A

/-- The directories of a search path. An empty one is the working directory. -/
def directories (searchPath : Bytes) : List Path := searchPath.splitOn separator

/-- The first program of a given name in some directories. -/
def search (fs : FileSystem) (directories : List Path) (name : Path) : Option Path :=
  (directories.map fun d => Path.join d name).find? fs.isExecutable

/-- Looks on a search path, if there is one. -/
def onSearchPath (fs : FileSystem) (searchPath : Option Bytes) : Probe := fun executable =>
  let name : Path := Utf8.encode executable
  if 1 < name.components.length then (if fs.isExecutable name then some name else none)
  else
    match searchPath with
    | none => none
    | some s => search fs (directories s) name

/-- Answers from a list. The last entry for a name counts. -/
def ofList (installed : List (Text × Path)) : Probe := fun name => installed.reverse.lookup name

end Probe

end Overseer
