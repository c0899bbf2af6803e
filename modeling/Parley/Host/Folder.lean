import Parley.Event.Body
import Parley.Host.File
import Parley.Host.Path

/-!
# Folders

The files and folders below a working folder, by the parts of their paths. A path leads on only
through folders; the folders above and the root are there, but nothing is known in them.
-/

namespace Parley

inductive Node where
  | folder
  | file (content : Body)
  deriving DecidableEq, Repr

/-- A place: the parts of the way to it from the working folder, or from the root. -/
abbrev Place := List String

structure Folder where
  nodes : List (Place × Node) := []
  deriving Repr

namespace Folder

def find? (folder : Folder) (place : Place) : Option Node :=
  if place.all (· == "..") || place == ["/"] then some .folder
  else (folder.nodes.find? (·.1 == place)).map Prod.snd

def put (folder : Folder) (place : Place) (node : Node) : Folder :=
  ⟨(place, node) :: folder.nodes.filter (·.1 != place)⟩

def isFolder (folder : Folder) (place : Place) : Bool := folder.find? place == some .folder

/-- One step up. -/
def above (place : Place) : Place :=
  if place = ["/"] then place
  else if place.all (· == "..") then place ++ [".."]
  else place.dropLast

/-- Where further parts of a path lead from a place. -/
def walk (folder : Folder) (place : Place) : List String → Option Place
  | [] => some place
  | part :: rest =>
    if !folder.isFolder place then none
    else if part = "" ∨ part = "." then walk folder place rest
    else if part = ".." then walk folder (above place) rest
    else walk folder (place ++ [part]) rest

/-- Where a path begins. -/
def start (path : String) : Place := if path.startsWith "/" then ["/"] else []

/-- Where a path leads, whether or not something stands there. -/
def locate (folder : Folder) (path : String) : Option Place :=
  if path = "" then none else folder.walk (start path) (Path.parts path)

def inspect (folder : Folder) (path : String) : FileState :=
  match (folder.locate path).bind folder.find? with
  | none => .missing
  | some .folder => .unreadable
  | some (.file (.binary bytes)) => .binary bytes
  | some (.file (.text content)) => .text content

/-- Writes a file, or changes it, if one can stand at the path. -/
def modify (folder : Folder) (path : String) (change : Option Body → Body) : Option Folder := do
  let place ← folder.locate path
  match folder.find? place with
  | none => some (folder.put place (.file (change none)))
  | some (.file content) => some (folder.put place (.file (change (some content))))
  | some .folder => none

def write (folder : Folder) (path content : String) : Option Folder :=
  folder.modify path fun _ => .text content

/-- Makes the folders that further parts of a path lead through. -/
def makeParts (folder : Folder) (place : Place) : List String → Option Folder
  | [] => some folder
  | part :: rest =>
    if part = "" ∨ part = "." then makeParts folder place rest
    else if part = ".." then makeParts folder (above place) rest
    else
      let place := place ++ [part]
      match folder.find? place with
      | none => makeParts (folder.put place .folder) place rest
      | some .folder => makeParts folder place rest
      | some (.file _) => none

/-- Makes a folder and those above it, unless a file stands in the way. -/
def make (folder : Folder) (path : String) : Option Folder :=
  folder.makeParts (start path) (Path.parts path)

/-- A folder with these files and the folders that they need. -/
def ofFiles (files : List (String × Body)) : Folder :=
  files.foldl (fun folder (path, content) =>
    let folder := (folder.make (Path.parent path)).getD folder
    (folder.modify path fun _ => content).getD folder) {}

end Folder

end Parley
