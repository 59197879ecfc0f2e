import ScriptMachine.Container.Decode
import ScriptMachine.Log.Event

/-!
# Events of decoding

An odd signature is reported as soon as it has been read, even when decoding fails later;
a decoded container is reported at the end.
-/

namespace ScriptMachine.Container

def signatureEvents (name : String) (bytes : Array UInt8) : List Event :=
  match head.run (.ofBytes bytes) with
  | .ok (h, _) =>
    if h.signature = signature then [] else [.unexpectedSignature name h.signature]
  | .error _ => []

def decodeEvents (name : String) (bytes : Array UInt8) : List Event :=
  signatureEvents name bytes ++
    match decode name bytes with
    | .ok c => [.decoded c]
    | .error _ => []

end ScriptMachine.Container
