import ScriptMachine.Container.Decode
import ScriptMachine.Source.FileTree
import ScriptMachine.Text.Lowercase

/-!
# Scripts in a directory

A script is found by its name below a directory: first under the name as it is given,
with an extension added where there is none, then under the lower-case form. Names that
could lead out of the directory are refused before any file is touched.
-/

namespace ScriptMachine

inductive SourceError where
  | notFound (name : String)
  | invalidName (name : String)
  | unreadable (name : String) (error : FileError)
deriving DecidableEq

namespace SourceError

def message : SourceError → String
  | .notFound name => "script `" ++ name ++ "` not found"
  | .invalidName name => "invalid script name `" ++ name ++ "`"
  | .unreadable name error => "failed to read script `" ++ name ++ "`: " ++ error.message

def causes : SourceError → List String
  | .unreadable _ error => [error.message]
  | _ => []

end SourceError

inductive LoadError where
  | source (error : SourceError)
  | decode (name : String) (error : DecodeError)
deriving DecidableEq

namespace LoadError

def message : LoadError → String
  | .source error => error.message
  | .decode name error => "could not decode script `" ++ name ++ "`: " ++ error.message

def report : LoadError → List String
  | .source error => error.message :: error.causes
  | e => [e.message]

end LoadError

namespace Directory

def extension : String := "int"

def fileName (name : String) : String :=
  if (Path.extension? name).isSome then name else Path.addExtension name extension

def candidates (root name : String) : Except SourceError (List String) :=
  if Path.isPlain name then
    let given := fileName name
    let lower := Text.lowercase given
    .ok ((if lower = given then [given] else [given, lower]).map (Path.join root))
  else .error (.invalidName name)

variable {m : Type → Type} [Monad m]

abbrev Opener (m : Type → Type) := String → m (Except FileError (Array UInt8))

/-- The first file that is found. Any other failure ends the search. -/
def firstFound (openFile : Opener m) (name : String) :
    List String → m (Except SourceError (Array UInt8))
  | [] => return .error (.notFound name)
  | path :: rest => do
    match ← openFile path with
    | .ok bytes => return .ok bytes
    | .error .notFound => firstFound openFile name rest
    | .error e => return .error (.unreadable name e)

def read (openFile : Opener m) (root name : String) : m (Except SourceError (Array UInt8)) :=
  match candidates root name with
  | .ok paths => firstFound openFile name paths
  | .error e => return .error e

end Directory

def Container.ofFile (name : String) :
    Except SourceError (Array UInt8) → Except LoadError Container
  | .ok bytes => (Container.decode name bytes).mapError (.decode name)
  | .error e => .error (.source e)

end ScriptMachine
