import Testbench.Files.Error
import Testbench.Text.Pieces
import Testbench.Text.Utf8
/-!
# Files

A small file system: a root directory and below it files and directories, each known by the names that
lead to it. Paths are bytes. The errors are those of the system for the same path.

Main definitions: `Files.read`, `Files.write`, `Files.makeDirectory`.
-/
namespace Testbench

abbrev Path := ByteArray

namespace Path

def ofString (s : String) : Path := s.toUTF8

/-- The path as it is shown. -/
def shown (p : Path) : String := Text.lenient p

end Path

abbrev Name := List UInt8

inductive Node where
  | file (content : ByteArray)
  | directory

structure Files where
  entries : List (List Name × Node)

namespace Files

def empty : Files := ⟨[]⟩

/-- What is found where names lead; no names lead to the root. -/
def lookup (fs : Files) (names : List Name) : Option Node :=
  if names.isEmpty then some .directory else fs.entries.lookup names

def put (fs : Files) (names : List Name) (node : Node) : Files :=
  ⟨(names, node) :: fs.entries.filter fun e => e.1 != names⟩

def thisDirectory : Name := [46]
def parentDirectory : Name := [46, 46]

/-- One step down, up, or nowhere. -/
def step (dir : List Name) (name : Name) : List Name :=
  if name = thisDirectory then dir
  else if name = parentDirectory then dir.dropLast
  else dir ++ [name]

/-- The directory that names lead to, if all of them are directories. -/
def descend (fs : Files) (dir : List Name) : List Name → Except FileError (List Name)
  | [] => .ok dir
  | name :: rest =>
    if 255 < name.length then .error .nameTooLong
    else
      match fs.lookup (step dir name) with
      | none => .error .notFound
      | some (.file _) => .error .notADirectory
      | some .directory => descend fs (step dir name) rest

/-- Where a path leads, and whether it asks for a directory by a slash at its end. -/
def locate (fs : Files) (path : Path) : Except FileError (List Name × Bool) :=
  let bytes := path.data.toList
  if bytes.contains 0 then .error .nulInPath
  else if bytes.isEmpty then .error .notFound
  else if 4096 ≤ bytes.length then .error .nameTooLong
  else
    let names := Text.fullPieces 47 bytes
    match names.getLast? with
    | none => .ok ([], true)
    | some last =>
      match fs.descend [] names.dropLast with
      | .error e => .error e
      | .ok dir =>
        if 255 < last.length then .error .nameTooLong
        else .ok (step dir last, bytes.getLast? == some 47)

/-- The content of a file. -/
def read (fs : Files) (path : Path) : Except FileError ByteArray :=
  match fs.locate path with
  | .error e => .error e
  | .ok (names, slash) =>
    match fs.lookup names with
    | none => .error .notFound
    | some .directory => .error .isADirectory
    | some (.file content) => if slash then .error .notADirectory else .ok content

/-- The content of a file that must be text. -/
def readText (fs : Files) (path : Path) : Except FileError String :=
  match fs.read path with
  | .error e => .error e
  | .ok content =>
    match String.fromUTF8? content with
    | some s => .ok s
    | none => .error .notText

/-- A file gets new content; it is made if its directory is there. -/
def write (fs : Files) (path : Path) (content : ByteArray) : Except FileError Files :=
  match fs.locate path with
  | .error e => .error e
  | .ok (names, slash) =>
    match fs.lookup names with
    | some .directory => .error .isADirectory
    | _ => if slash then .error .isADirectory else .ok (fs.put names (.file content))

/-- A directory is made, unless something is there already. -/
def makeDirectory (fs : Files) (path : Path) : Files :=
  match fs.locate path with
  | .error _ => fs
  | .ok (names, _) =>
    match fs.lookup names with
    | none => fs.put names .directory
    | some _ => fs

end Files
end Testbench
