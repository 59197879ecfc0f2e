import Mathlib.Data.List.Induction
import ScriptMachine.Host.Console
import ScriptMachine.Host.Sandbox
import ScriptMachine.Proofs.Host.Recording

/-!
# Variables of hosts

Variables in three namespaces, which requests read, write and export. A host keeps them if it
answers such requests from a view of its state as a map from cells to values would. What the
map holds is told by the requests made so far alone, so all hosts that keep variables and were
new then answer alike.
-/

namespace ScriptMachine

variable {σ : Type}

inductive Scope where
  | map
  | global
  | external
deriving DecidableEq

inductive Cell where
  | map (index : Int64)
  | global (index : Int64)
  | external (name : String)
deriving DecidableEq

def Cell.scope : Cell → Scope
  | .map _ => .map
  | .global _ => .global
  | .external _ => .external

abbrev Variables := Cell → Option Value

namespace Request

def cell? : Request → Option Cell
  | .mapVar index | .setMapVar index _ => some (.map index)
  | .globalVar index | .setGlobalVar index _ => some (.global index)
  | .fetchExternal name | .storeExternal name _ | .exportVar name => some (.external name)
  | _ => none

def onVariable (r : Request) : Bool := r.cell?.isSome

def scope? (r : Request) : Option Scope := r.cell?.map Cell.scope

def written? : Request → Option Value
  | .setMapVar _ v | .setGlobalVar _ v | .storeExternal _ v => some v
  | _ => none

def exports : Request → Bool
  | .exportVar _ => true
  | _ => false

/-- The answer that is right if the variables hold these values. -/
def reply (held : Variables) : (r : Request) → Reply r
  | .mapVar index => (held (.map index)).elim (.error (.variableNotFound index)) .ok
  | .globalVar index => (held (.global index)).elim (.error (.variableNotFound index)) .ok
  | .fetchExternal name => (held (.external name)).elim (.error (.externalNotFound name)) .ok
  | .setMapVar _ _ | .setGlobalVar _ _ | .storeExternal _ _ | .exportVar _ => .ok ()
  | r => .error (Refusing.refusal r)

def leaves (r : Request) (old : Option Value) : Option Value :=
  if r.exports then some (old.getD (.int 0)) else r.written?.or old

end Request

namespace Variables

def after (held : Variables) (r : Request) : Variables :=
  fun c => if r.cell? = some c then r.leaves (held c) else held c

def about (c : Cell) (done : List Request) : List Request := done.filter (·.cell? = some c)

def lastWritten (c : Cell) (done : List Request) : Option Value :=
  ((about c done).filterMap Request.written?).getLast?

def exported (c : Cell) (done : List Request) : Bool := (about c done).any Request.exports

/-- What requests have left behind: the value last written to a variable, or else a zero if it
was exported. -/
def left (done : List Request) : Variables :=
  fun c => (lastWritten c done).or (bif exported c done then some (.int 0) else none)

variable {c : Cell} {r : Request} (done : List Request)

theorem about_concat (h : r.cell? = some c) : about c (done ++ [r]) = about c done ++ [r] := by
  simp [about, h]

theorem about_concat_of_ne (h : r.cell? ≠ some c) : about c (done ++ [r]) = about c done := by
  simp [about, h]

theorem about_filter (p : Request → Bool) (all : ∀ r, r.cell? = some c → p r = true) :
    about c (done.filter p) = about c done := by
  rw [about, about, List.filter_filter]
  refine List.filter_congr fun r _ => ?_
  by_cases h : r.cell? = some c
  · simp [h, all r h]
  · simp [h]

theorem left_concat (r : Request) : left (done ++ [r]) = (left done).after r := by
  funext c
  by_cases h : r.cell? = some c
  · simp only [left, after, h, if_true, lastWritten, exported, about_concat done h,
      List.filterMap_append, List.getLast?_append, List.any_append, Request.leaves]
    cases hexports : r.exports with
    | true =>
      have unwritten : r.written? = none := by cases r <;> first | rfl | contradiction
      cases ((about c done).filterMap Request.written?).getLast? <;>
        cases (about c done).any Request.exports <;> simp [unwritten, hexports]
    | false => cases hwritten : r.written? <;> simp [hwritten, hexports]
  · simp only [left, after, h, if_false, lastWritten, exported, about_concat_of_ne done h]

theorem left_filter (p : Request → Bool) (all : ∀ r, r.cell? = some c → p r = true) :
    left (done.filter p) c = left done c := by
  simp only [left, lastWritten, exported, about_filter done p all]

theorem after_exportVar {held : Variables} {v : Value} (h : held c = some v) (name : String) :
    held.after (.exportVar name) c = some v := by
  simp [after, Request.leaves, Request.exports, h]

theorem after_read (held : Variables) (unexporting : r.exports = false)
    (unwritten : r.written? = none) : held.after r = held := by
  funext c
  simp [after, Request.leaves, unexporting, unwritten]

theorem after_of_off (held : Variables) (off : ¬ r.onVariable = true) : held.after r = held := by
  funext c
  have none : r.cell? = none := by simpa [Request.onVariable] using off
  simp [after, none]

def ofTables (maps globals : Table Int64 Value) (externals : Table String Value) : Variables
  | .map index => maps.get? index
  | .global index => globals.get? index
  | .external name => externals.get? name

section

variable (maps globals : Table Int64 Value) (externals : Table String Value)

theorem ofTables_setMapVar (index : Int64) (v : Value) :
    ofTables (maps.put index v) globals externals =
      (ofTables maps globals externals).after (.setMapVar index v) := by
  funext c
  cases c <;> simp [ofTables, after, Request.cell?, Request.leaves, Request.exports,
    Request.written?, Table.get?_put, eq_comm]

theorem ofTables_setGlobalVar (index : Int64) (v : Value) :
    ofTables maps (globals.put index v) externals =
      (ofTables maps globals externals).after (.setGlobalVar index v) := by
  funext c
  cases c <;> simp [ofTables, after, Request.cell?, Request.leaves, Request.exports,
    Request.written?, Table.get?_put, eq_comm]

theorem ofTables_storeExternal (name : String) (v : Value) :
    ofTables maps globals (externals.put name v) =
      (ofTables maps globals externals).after (.storeExternal name v) := by
  funext c
  cases c <;> simp [ofTables, after, Request.cell?, Request.leaves, Request.exports,
    Request.written?, Table.get?_put, eq_comm]

theorem ofTables_exportVar (name : String) :
    ofTables maps globals (externals.putNew name (.int 0)) =
      (ofTables maps globals externals).after (.exportVar name) := by
  funext c
  cases c with
  | map | global => simp [ofTables, after, Request.cell?]
  | external other =>
    by_cases h : name = other
    · simp [ofTables, after, Request.cell?, Request.leaves, Request.exports, Table.get?_putNew, h]
    · simp [ofTables, after, Request.cell?, Table.get?_putNew, h, Ne.symm h]

end

end Variables

namespace Request

variable {held held' : Variables}

theorem reply_congr (r : Request) (h : ∀ c, r.cell? = some c → held c = held' c) :
    r.reply held = r.reply held' := by
  cases r <;> simp_all [reply, cell?]

theorem reply_of_off {r : Request} (off : ¬ r.onVariable = true) :
    r.reply held = .error (Refusing.refusal r) := by
  cases r <;> first | rfl | exact absurd rfl off

theorem reply_of_le {r : Request} {a : r.Answer} (h : r.reply held = .ok a)
    (le : ∀ c v, held c = some v → held' c = some v) : r.reply held' = .ok a := by
  cases r with
  | mapVar index =>
    cases hv : held (.map index) <;> simp_all [reply]
  | globalVar index =>
    cases hv : held (.global index) <;> simp_all [reply]
  | fetchExternal name =>
    cases hv : held (.external name) <;> simp_all [reply]
  | setMapVar | setGlobalVar | storeExternal | exportVar => rfl
  | _ => contradiction

end Request

def Variables.host : Host Variables := { answer := fun r held => (r.reply held, held.after r) }

def Host.after (host : Host σ) (done : List Request) (s : σ) : σ :=
  done.foldl (fun s r => (host.answer r s).2) s

structure Host.Keeps (view : σ → Variables) (host : Host σ) : Prop where
  reply : ∀ r s, r.onVariable = true → (host.answer r s).1 = r.reply (view s)
  state : ∀ r s, r.onVariable = true → view (host.answer r s).2 = (view s).after r

/-- From this state on, a host is a store of variables. Its replies are told by the requests
made so far. An export changes no value that can be read, and requests of one namespace have no
part in the replies to those of another. -/
structure Host.IsStore (host : Host σ) (new : σ) : Prop where
  replies : ∀ done, (∀ q ∈ done, q.onVariable = true) → ∀ r, r.onVariable = true →
    (host.answer r (host.after done new)).1 = r.reply (.left done)
  exporting : ∀ done, (∀ q ∈ done, q.onVariable = true) → ∀ r a name, r.onVariable = true →
    (host.answer r (host.after done new)).1 = .ok a →
      (host.answer r (host.after (done ++ [.exportVar name]) new)).1 = .ok a
  apart : ∀ done, (∀ q ∈ done, q.onVariable = true) → ∀ r, r.onVariable = true →
    (host.answer r (host.after done new)).1 =
      (host.answer r (host.after (done.filter (·.scope? = r.scope?)) new)).1

section

variable {view : σ → Variables} {host : Host σ} {s : σ} {done : List Request}

theorem Host.Keeps.mimics (keeps : host.Keeps view) :
    (host.limitedTo Request.onVariable).Mimics view Variables.host where
  reply r s := by
    by_cases on : r.onVariable = true
    · simp [limitedTo, Variables.host, on, keeps.reply]
    · simp [limitedTo, Variables.host, on, Request.reply_of_off]
  state r s := by
    by_cases on : r.onVariable = true
    · simp [limitedTo, Variables.host, on, keeps.state]
    · simp [limitedTo, Variables.host, on, Variables.after_of_off]

theorem Host.Keeps.after (keeps : host.Keeps view) (new : view s = fun _ => none)
    (only : ∀ q ∈ done, q.onVariable = true) : view (host.after done s) = .left done := by
  induction done using List.reverseRecOn with
  | nil => exact new
  | append_singleton done r ih =>
    rw [List.forall_mem_append, List.forall_mem_singleton] at only
    rw [Variables.left_concat, ← ih only.left, ← keeps.state r _ only.right, Host.after,
      List.foldl_append]
    rfl

theorem Host.Keeps.isStore (keeps : host.Keeps view) (new : view s = fun _ => none) :
    host.IsStore s := by
  have replies (done : List Request) (only : ∀ q ∈ done, q.onVariable = true) (r : Request)
      (on : r.onVariable = true) :
      (host.answer r (host.after done s)).1 = r.reply (.left done) := by
    rw [keeps.reply r _ on, keeps.after new only]
  refine ⟨replies, fun done only r a name on h => ?_, fun done only r on => ?_⟩
  · rw [replies done only r on] at h
    have only' : ∀ q ∈ done ++ [.exportVar name], q.onVariable = true := by
      rw [List.forall_mem_append, List.forall_mem_singleton]
      exact ⟨only, rfl⟩
    rw [replies _ only' r on, Variables.left_concat]
    exact Request.reply_of_le h fun c v held => Variables.after_exportVar held name
  · rw [replies done only r on, replies _ (fun q hq => only q (List.mem_filter.mp hq).left) r on]
    refine r.reply_congr fun c about => (Variables.left_filter done _ fun q hq => ?_).symm
    simp [Request.scope?, about, hq]

end

def Sandbox.held (s : Sandbox) : Variables := .ofTables s.mapVars s.globalVars s.externals

def Console.held (c : Console) : Variables := .ofTables c.mapVars c.globalVars c.externals

theorem Sandbox.orError_eq {α : Type} (e : HostError) (found : Option α) :
    orError e found = found.elim (.error e) .ok := by cases found <;> rfl

theorem Console.stored_eq (index : Int64) (found : Option Value) :
    stored index found = found.elim (.error (.variableNotFound index)) .ok := by
  cases found <;> rfl

theorem Sandbox.host_keeps : host.Keeps held where
  reply r s on := by
    cases r with
    | mapVar | globalVar | fetchExternal => exact orError_eq _ _
    | setMapVar | setGlobalVar | storeExternal | exportVar => rfl
    | _ => contradiction
  state r s on := by
    cases r with
    | mapVar | globalVar | fetchExternal => exact (Variables.after_read _ rfl rfl).symm
    | setMapVar index v => exact Variables.ofTables_setMapVar _ _ _ index v
    | setGlobalVar index v => exact Variables.ofTables_setGlobalVar _ _ _ index v
    | storeExternal name v => exact Variables.ofTables_storeExternal _ _ _ name v
    | exportVar name => exact Variables.ofTables_exportVar _ _ _ name
    | _ => contradiction

theorem Console.host_keeps : host.Keeps held where
  reply r s on := by
    cases r with
    | mapVar | globalVar => exact stored_eq _ _
    | fetchExternal name =>
      cases h : s.externals.get? name <;>
        simp [host, answer, Request.reply, held, Variables.ofTables, h]
    | setMapVar | setGlobalVar | storeExternal | exportVar => rfl
    | _ => contradiction
  state r s on := by
    cases r with
    | mapVar | globalVar => exact (Variables.after_read _ rfl rfl).symm
    | fetchExternal name =>
      rw [Variables.after_read _ rfl rfl]
      cases h : s.externals.get? name <;> simp [host, answer, h]
    | setMapVar index v => exact Variables.ofTables_setMapVar _ _ _ index v
    | setGlobalVar index v => exact Variables.ofTables_setGlobalVar _ _ _ index v
    | storeExternal name v => exact Variables.ofTables_storeExternal _ _ _ name v
    | exportVar name => exact Variables.ofTables_exportVar _ _ _ name
    | _ => contradiction

end ScriptMachine
