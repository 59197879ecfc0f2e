/-!
# Paths

A path is a text in which slashes separate names. Repeated and trailing slashes mean
nothing, and neither does a single dot except at the very start.
-/

namespace ScriptMachine.Path

inductive Component where
  | root
  | current
  | parent
  | normal (name : String)
deriving DecidableEq

def pieces : List Char → List (List Char)
  | [] => [[]]
  | c :: rest =>
    if c = '/' then [] :: pieces rest
    else match pieces rest with
      | piece :: more => (c :: piece) :: more
      | [] => [[c]]

def component? (piece : List Char) : Option Component :=
  if piece = [] ∨ piece = ['.'] then none
  else if piece = ['.', '.'] then some .parent
  else some (.normal (.ofList piece))

def anchor (path : List Char) : List Component :=
  if path.head? = some '/' then [.root]
  else if (pieces path).head? = some ['.'] then [.current]
  else []

def components (path : String) : List Component :=
  anchor path.toList ++ (pieces path.toList).filterMap component?

def Component.isNormal : Component → Bool
  | .normal _ => true
  | _ => false

/-- Whether the path consists of names only, so that it stays below where it starts. -/
def isPlain (path : String) : Bool :=
  !path.isEmpty && (components path).all Component.isNormal

def fileName? (path : String) : Option String :=
  match (components path).getLast? with
  | some (.normal name) => some name
  | _ => none

/-- What follows the last dot of a file name. A dot at the start of the name does not
count. -/
def nameExtension? (name : List Char) : Option String :=
  let after := name.reverse.takeWhile (· ≠ '.')
  if after.length + 1 < name.length then some (.ofList after.reverse) else none

def extension? (path : String) : Option String :=
  (fileName? path).bind fun name => nameExtension? name.toList

def dropTail : List Char → List Char
  | '/' :: rest => dropTail rest
  | '.' :: '/' :: rest => dropTail rest
  | path => path

def addExtension (path extension : String) : String :=
  .ofList (dropTail path.toList.reverse).reverse ++ "." ++ extension

def join (directory path : String) : String :=
  if directory.isEmpty || directory.toList.getLast? = some '/' then directory ++ path
  else directory ++ "/" ++ path

end ScriptMachine.Path
