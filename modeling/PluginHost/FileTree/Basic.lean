import PluginHost.IoError
import PluginHost.Library.Basic
import PluginHost.Split

/-!
# File trees

Directories, files and shared libraries by path, with a current directory. A path is followed one
name at a time: a dot stays, two dots go up, a link goes to its target, and every name but the last
must be that of a directory.
-/

namespace PluginHost

/-- Why what is at a path cannot be opened or read. -/
inductive PathFault where
  | missing
  | notPermitted
  | notADirectory
  | isADirectory
  | nameTooLong
  | noDevice
  | unanswered
  | senseless
  deriving DecidableEq, Repr

inductive Entry where
  | directory
  /-- A file that may be a shared library. -/
  | file (content : Bytes) (library : Option Library)
  /-- What has a name and cannot be opened. -/
  | closed (fault : PathFault)
  /-- What can be opened and not read. -/
  | unreadable (fault : PathFault)

/-- A place in a tree: the names that lead to it from the root. -/
abbrev Place := List Bytes

/-- Entries by place; of two for one place the first counts. A link is another name for the place
that is its target, and targets are not links themselves. -/
structure FileTree where
  entries : List (Place × Entry)
  links : List (Place × Place)
  current : Place

namespace PathFault

def text : PathFault → String
  | missing => "No such file or directory"
  | notPermitted => "Permission denied"
  | notADirectory => "Not a directory"
  | isADirectory => "Is a directory"
  | nameTooLong => "File name too long"
  | noDevice => "No such device or address"
  | unanswered => "Input/output error"
  | senseless => "Invalid argument"

def ioError : PathFault → IoError
  | missing => .noSuchFile
  | notPermitted => .notPermitted
  | notADirectory => .notADirectory
  | isADirectory => .isADirectory
  | nameTooLong => .nameTooLong
  | noDevice => .noDevice
  | unanswered => .unanswered
  | senseless => .senseless

end PathFault

namespace FileTree

/-- The name that stays in a directory. -/
def here : Bytes := [Bytes.dot]

/-- The name that leads up from a directory. -/
def up : Bytes := [Bytes.dot, Bytes.dot]

/-- The most bytes that one name may have. -/
def longestName : Nat := 255

/-- The most bytes that a path may have. -/
def longestPath : Nat := 4095

/-- The names in a path. A slash at the end stands for one more step, which stays in place. -/
def names (path : Bytes) : List Bytes :=
  (split Bytes.slash path).filter (· ≠ []) ++
    if path.getLast? = some Bytes.slash then [here] else []

def find? (tree : FileTree) (place : Place) : Option Entry :=
  if place = [] then some .directory else tree.entries.lookup place

/-- Where one more name leads from a directory. -/
def step (tree : FileTree) (place : Place) (name : Bytes) : Place :=
  let next := place ++ [name]
  (tree.links.lookup next).getD next

/-- What opening an entry gives. -/
def opened : Entry → Except PathFault Entry
  | .closed fault => .error fault
  | entry => .ok entry

/-- Follow names from a directory to an entry and the place where it is. -/
def walk (tree : FileTree) : Place → List Bytes → Except PathFault (Place × Entry)
  | place, [] => .ok (place, .directory)
  | place, name :: rest =>
      if name = here then walk tree place rest
      else if name = up then walk tree place.dropLast rest
      else if longestName < name.length then .error .nameTooLong
      else
        let next := tree.step place name
        match tree.find? next with
        | none => .error .missing
        | some .directory => walk tree next rest
        | some entry =>
            if rest = [] then (opened entry).map (next, ·) else .error .notADirectory

/-- The directory from which a path is followed. -/
def origin (tree : FileTree) (path : Bytes) : Place :=
  if path.head? = some Bytes.slash then [] else tree.current

/-- What is at a path, and its place. A path starts at the root if it begins with a slash. -/
def find (tree : FileTree) (path : Bytes) : Except PathFault (Place × Entry) :=
  if path = [] then .error .missing
  else if longestPath < path.length then .error .nameTooLong
  else walk tree (tree.origin path) (names path)

/-- The entry at a path. -/
def locate (tree : FileTree) (path : Bytes) : Except PathFault Entry :=
  (tree.find path).map Prod.snd

/-- The content of the file at a path. -/
def readFile (tree : FileTree) (path : Bytes) : Except IoError Bytes :=
  if path.contains 0 then .error .nulInName
  else
    match tree.locate path with
    | .error fault => .error fault.ioError
    | .ok .directory => .error .isADirectory
    | .ok (.closed fault) | .ok (.unreadable fault) => .error fault.ioError
    | .ok (.file content _) => .ok content

/-- The place to which names lead from a directory if all that they lead through is there. -/
def placeFrom (tree : FileTree) (origin : Place) (names : List Bytes) : Place :=
  names.foldl
    (fun place name =>
      if name = here then place else if name = up then place.dropLast else tree.step place name)
    origin

/-- The place a path names. -/
def place (tree : FileTree) (path : Bytes) : Place :=
  tree.placeFrom (tree.origin path) (names path)

/-- Put an entry at a place, with directories on the way there. -/
def putAt (tree : FileTree) (place : Place) (entry : Entry) : FileTree :=
  let above := (List.range place.length).map fun length => (place.take length, Entry.directory)
  { tree with entries := (place, entry) :: above ++ tree.entries }

/-- Put a directory at a path, and at every path that leads to it, also where two dots turn back. -/
def putDirectory (tree : FileTree) (path : Bytes) : FileTree :=
  let names := names path
  (List.range (names.length + 1)).foldl
    (fun tree length =>
      tree.putAt (tree.placeFrom (tree.origin path) (names.take length)) .directory)
    tree

def putFile (tree : FileTree) (path content : Bytes) : FileTree :=
  tree.putAt (tree.place path) (.file content none)

/-- Put a link at a path. -/
def putLink (tree : FileTree) (path target : Bytes) : FileTree :=
  { tree with links := (tree.place path, tree.place target) :: tree.links }

/-- The first bytes of a shared library; one of them numbers the system that it is made for. -/
def libraryContent (system : UInt8) : Bytes :=
  [0x7F, 0x45, 0x4C, 0x46, 2, 1, 1, system] ++ List.replicate 56 0

def putLibrary (tree : FileTree) (path : Bytes) (library : Library) : FileTree :=
  tree.putAt (tree.place path) (.file (libraryContent library.madeFor) (some library))

end FileTree

end PluginHost
