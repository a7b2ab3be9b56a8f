import SwaggerClient.Text.Split

namespace SwaggerClient.Path

def isAbsolute (path : String) : Bool :=
  Text.beginsWith '/' path

def endsInSlash (path : String) : Bool :=
  path.toList.getLast? == some '/'

def names (path : String) : List String :=
  (Text.split '/' path).filter fun piece => !piece.isEmpty

/-- A path seen from a directory; an absolute one stays as it is. -/
def join (directory path : String) : String :=
  if isAbsolute path then path
  else if directory.isEmpty || endsInSlash directory then directory ++ path
  else directory ++ "/" ++ path

/-- The piece between two slashes leads nowhere. -/
def isIdle (piece : String) : Bool :=
  piece.isEmpty || piece == "."

def dropIdleEnd (pieces : List String) : List String :=
  (pieces.reverse.dropWhile isIdle).reverse

/-- What stands before the names of a path. -/
inductive Start where
  | root
  /-- A dot for the working directory. -/
  | dot
  | none
deriving DecidableEq, Repr

/-- The start of a path, and the pieces after it. -/
def parts (path : String) : Start × List String :=
  match Text.split '/' path with
  | "" :: piece :: pieces => (.root, piece :: pieces)
  | "." :: pieces => (.dot, pieces)
  | pieces => (.none, pieces)

def ofParts : Start → List String → String
  | .root, pieces => "/" ++ Text.join "/" pieces
  | .dot, [] => "."
  | .dot, pieces => "./" ++ Text.join "/" pieces
  | .none, pieces => Text.join "/" pieces

/-- The path without its last name. The root and the empty path have no parent. -/
def parent? (path : String) : Option String :=
  match parts path with
  | (start, pieces) =>
    match dropIdleEnd pieces with
    | [] => if start = .dot then some "" else none
    | named => some (ofParts start (dropIdleEnd named.dropLast))

/-- The path, its parent, the parent of that and so on, at most as many as `bound`. -/
def outward : (bound : Nat) → String → List String
  | 0, _ => []
  | bound + 1, path =>
    if path.isEmpty then []
    else
      path ::
        match parent? path with
        | none => []
        | some parent => outward bound parent

/-- The path and the directories around it that it names, from the inside out. -/
def ancestors (path : String) : List String :=
  outward (path.length + 1) path

/-- The letters after the last dot of the last name; a dot at its beginning does not count. -/
def extension? (path : String) : Option String :=
  match (dropIdleEnd (parts path).2).getLast? with
  | none => none
  | some name =>
    if name = ".." then none
    else
      match (Text.split '.' name).reverse with
      | last :: before :: more => if before.isEmpty && more.isEmpty then none else some last
      | _ => none

end SwaggerClient.Path
