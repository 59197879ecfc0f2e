import ScriptMachine.Machine.Context
import ScriptMachine.Value.Basic

/-!
# Requests to the host

Everything in the world that a script can ask for. Each request has its own type of
answer, and a host may refuse any of them; a refused request never fails the script.
-/

namespace ScriptMachine

inductive Property where
  | name
  | pid
  | type
  | stat (index : Int64)
deriving DecidableEq

def Property.text : Property → String
  | .name => "name"
  | .pid => "pid"
  | .type => "type"
  | .stat index => "stat[" ++ toString index.toInt ++ "]"

inductive HostEffect where
  | playMovie (movie : Int64)
  | playSound (sound : String)
  | displayMessage (text : String)
  | giveExperience (points : Int64)
deriving DecidableEq

structure Message where
  text : String := ""
  sound : String := ""
deriving DecidableEq

inductive HostError where
  | objectNotFound (object : Handle)
  | propertyNotFound (object : Handle) (property : Property)
  | messageNotFound (table id : Int64)
  | scriptNotFound (script : Int64)
  | procedureNotFound (script : Int64) (procedure : String)
  | variableNotFound (index : Int64)
  | externalNotFound (name : String)
deriving DecidableEq

def HostError.message : HostError → String
  | .objectNotFound object => "object " ++ object.text ++ " not found"
  | .propertyNotFound object property =>
    "object " ++ object.text ++ " has no property " ++ property.text
  | .messageNotFound table id =>
    "message " ++ toString id.toInt ++ " not found in table " ++ toString table.toInt
  | .scriptNotFound script => "script " ++ toString script.toInt ++ " not found"
  | .procedureNotFound script procedure =>
    "script " ++ toString script.toInt ++ " has no procedure `" ++ procedure ++ "`"
  | .variableNotFound index => "variable " ++ toString index.toInt ++ " not found"
  | .externalNotFound name => "external variable `" ++ name ++ "` not found"

inductive Request where
  | property (object : Handle) (property : Property)
  | setProperty (object : Handle) (property : Property) (value : Value)
  | trigger (owner : Option Handle) (effect : HostEffect)
  | message (table id : Int64)
  | callProcedure (script : Int64) (procedure : String) (context : CallContext)
  | player
  | mapVar (index : Int64)
  | setMapVar (index : Int64) (value : Value)
  | globalVar (index : Int64)
  | setGlobalVar (index : Int64) (value : Value)
  | fetchExternal (name : String)
  | storeExternal (name : String) (value : Value)
  | exportVar (name : String)

@[reducible] def Request.Answer : Request → Type
  | .property .. | .callProcedure .. | .mapVar _ | .globalVar _ | .fetchExternal _ => Value
  | .message .. => Message
  | .player => Handle
  | .setProperty .. | .trigger .. | .setMapVar .. | .setGlobalVar .. | .storeExternal ..
  | .exportVar _ => Unit

abbrev Reply (r : Request) : Type := Except HostError r.Answer

end ScriptMachine
