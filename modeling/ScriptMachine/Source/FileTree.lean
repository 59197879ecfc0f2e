import ScriptMachine.Source.Path

/-!
# File trees

Files and directories below a working directory, and what opening a path for reading
comes to: names are looked up one after the other, each in a directory.
-/

namespace ScriptMachine

inductive FileError where
  | notFound
  | notDirectory
  | isDirectory
  | nameTooLong
  | nullInName
  | other (text : String)
deriving DecidableEq

def FileError.message : FileError → String
  | .notFound => "No such file or directory (os error 2)"
  | .notDirectory => "Not a directory (os error 20)"
  | .isDirectory => "Is a directory (os error 21)"
  | .nameTooLong => "File name too long (os error 36)"
  | .nullInName => "file name contained an unexpected NUL byte"
  | .other text => text

abbrev Place := List String

structure FileTree where
  files : List (Place × Array UInt8) := []
  directories : List Place := []

namespace FileTree

def nameLimit : Nat := 255
def pathLimit : Nat := 4095

def place (path : String) : Place :=
  (Path.pieces path.toList).filterMap fun piece =>
    if piece = [] then none else some (.ofList piece)

def addFile (t : FileTree) (path : String) (bytes : Array UInt8) : FileTree :=
  { t with files := (place path, bytes) :: t.files }

def addDirectory (t : FileTree) (path : String) : FileTree :=
  { t with directories := place path :: t.directories }

def file? (t : FileTree) (p : Place) : Option (Array UInt8) :=
  (t.files.find? (·.1 = p)).map (·.2)

/-- A directory is one by itself or holds something. -/
def isDirectory (t : FileTree) (p : Place) : Bool :=
  p.isEmpty || t.directories.any (p.isPrefixOf ·) ||
    t.files.any fun (f, _) => p.isPrefixOf f && p.length < f.length

def walk (t : FileTree) (here : Place) : List (List Char) → Except FileError (Array UInt8)
  | [] => .error .isDirectory
  | piece :: rest =>
    let name := String.ofList piece
    if name.isEmpty || name = "." then t.walk here rest
    else if name = ".." then
      if here.isEmpty then .error .notFound else t.walk here.dropLast rest
    else if nameLimit < name.utf8ByteSize then .error .nameTooLong
    else match t.file? (here ++ [name]) with
      | some bytes => if rest.isEmpty then .ok bytes else .error .notDirectory
      | none =>
        if t.isDirectory (here ++ [name]) then t.walk (here ++ [name]) rest
        else .error .notFound

def read (t : FileTree) (path : String) : Except FileError (Array UInt8) :=
  if path.toList.contains '\x00' then .error .nullInName
  else if pathLimit < path.utf8ByteSize then .error .nameTooLong
  else if path.isEmpty || path.toList.head? = some '/' then .error .notFound
  else t.walk [] (Path.pieces path.toList)

end FileTree

end ScriptMachine
