/-!
# Object handles

A handle names an object of the world by its slot and the generation of the slot's
occupant, so a handle outlives its object without ever naming a later one. The greatest
index is reserved for handles that name nothing.
-/

namespace ScriptMachine

structure Handle where
  index : UInt32
  generation : UInt32
deriving DecidableEq, Inhabited

namespace Handle

def reservedIndex : UInt32 := 0xFFFFFFFF

def nothing : Handle := ⟨reservedIndex, 0⟩

def isNothing (h : Handle) : Bool := h.index = reservedIndex

def valid? (h : Handle) : Option Handle := if h.isNothing then none else some h

def text (h : Handle) : String :=
  if h.isNothing then "#nothing"
  else "#" ++ toString h.index.toNat ++ "." ++ toString h.generation.toNat

end Handle

end ScriptMachine
