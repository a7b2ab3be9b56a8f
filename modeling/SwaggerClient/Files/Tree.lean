import SwaggerClient.Entries
import SwaggerClient.Files.Access
import SwaggerClient.Files.Path

namespace SwaggerClient

/-- The names that lead from the root to a file or directory. -/
abbrev Place := List String

/-- What stands at a place. -/
inductive FileNode where
  | directory
  | file (text : String)
deriving DecidableEq, Repr

/-- Files and directories below the root, and the directory where relative paths start. -/
structure FileTree where
  nodes : List (Place × FileNode)
  workingDirectory : Place
deriving DecidableEq, Repr

namespace FileTree

/-- How many bytes a name may have. -/
def maxName : Nat := 255

/-- How many bytes a path may have. -/
def maxPath : Nat := 4095

def node? (tree : FileTree) (place : Place) : Option FileNode :=
  match place with
  | [] => some .directory
  | place => Entries.get? place tree.nodes

def put (tree : FileTree) (place : Place) (node : FileNode) : FileTree :=
  { tree with nodes := Entries.set place node tree.nodes }

/-- The place of a name in a directory. One dot is the directory itself, two are the one around it. -/
def step (here : Place) (name : String) : Except FileError Place :=
  if maxName < name.utf8ByteSize then .error .nameTooLong
  else if name = "." then .ok here
  else if name = ".." then .ok here.dropLast
  else .ok (here ++ [name])

def enter (tree : FileTree) (here : Place) (name : String) : Except FileError Place := do
  let place ← step here name
  match tree.node? place with
  | some .directory => return place
  | some (.file _) => throw .notDirectory
  | none => throw .noSuchFile

def locate (tree : FileTree) (path : String) : Except FileError Place := do
  if path.toList.contains '\x00' then throw .nulInPath
  if maxPath < path.utf8ByteSize then throw .nameTooLong
  if path.isEmpty then throw .noSuchFile
  let start := if Path.isAbsolute path then [] else tree.workingDirectory
  let directory ← (Path.names path).dropLast.foldlM tree.enter start
  match (Path.names path).getLast? with
  | none => return directory
  | some name => step directory name

def read (tree : FileTree) (path : String) : Except FileError String := do
  let place ← tree.locate path
  match tree.node? place with
  | none => throw .noSuchFile
  | some .directory => throw .isDirectory
  | some (.file text) => if Path.endsInSlash path then throw .notDirectory else return text

def isDirectory (tree : FileTree) (path : String) : Bool :=
  match tree.locate path with
  | .ok place => tree.node? place = some .directory
  | .error _ => false

def makeDirectory (tree : FileTree) (path : String) : Except FileError FileTree := do
  let place ← tree.locate path
  match tree.node? place with
  | none => return tree.put place .directory
  | some _ => throw .exists

def write (tree : FileTree) (path text : String) : Except FileError FileTree := do
  let place ← tree.locate path
  if Path.endsInSlash path || tree.node? place = some .directory then throw .isDirectory
  return tree.put place (.file text)

/-- A program that reads and writes the files of a tree. -/
abbrev Session := StateM FileTree

instance : FileAccess Session where
  read path := ExceptT.mk fun tree => (tree.read path, tree)
  isDirectory path := fun tree => (tree.isDirectory path, tree)
  makeDirectory path := ExceptT.mk fun tree =>
    match tree.makeDirectory path with
    | .ok changed => (.ok (), changed)
    | .error e => (.error e, tree)
  write path text := ExceptT.mk fun tree =>
    match tree.write path text with
    | .ok changed => (.ok (), changed)
    | .error e => (.error e, tree)

def withDirectories (tree : FileTree) (here : Place) : List String → FileTree
  | [] => tree
  | name :: names =>
    let place := here ++ [name]
    withDirectories (tree.put place .directory) place names

/-- A tree with a working directory and those around it, and nothing else. -/
def ofDirectory (directory : Place) : FileTree :=
  withDirectories ⟨[], directory⟩ [] directory

/-- Puts a file at a path below the working directory, with the directories on the way. -/
def withFile (tree : FileTree) (path text : String) : FileTree :=
  let names := Path.names path
  let tree := tree.withDirectories tree.workingDirectory names.dropLast
  tree.put (tree.workingDirectory ++ names) (.file text)

end FileTree

end SwaggerClient
