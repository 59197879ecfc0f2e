import ScriptMachine.Proofs.Session.Lifecycle

/-!
# Local variables

The local variables of a session are a store that outlasts its runs. Each holds what was last
stored to it in any run so far, whatever way that run ended, and zero before that. There are
always as many as were configured. An index without a variable is refused, and changes none.
-/

namespace ScriptMachine

variable {σ : Type}

def Inside (count : Nat) (index : Int64) : Prop := 0 ≤ index.toInt ∧ index.toInt < count

instance (count : Nat) (index : Int64) : Decidable (Inside count index) :=
  inferInstanceAs (Decidable (_ ∧ _))

/-! The two instructions on local variables. -/

namespace Exec

variable {m : Machine}

theorem popInteger_fault (h : ∀ index rest, m.data ≠ .int index :: rest) :
    ∃ e m', popInteger m = .error e m' ∧ m'.locals = m.locals ∧
      ∀ index count, e ≠ .localOutOfRange index count := by
  obtain ⟨position, opcode, opcodeOffset, data⟩ := m
  match data with
  | [] => exact ⟨.stackUnderflow, _, rfl, rfl, nofun⟩
  | .int index :: rest => exact absurd rfl (h index rest)
  | .none :: _ | .float _ :: _ | .text _ :: _ | .object _ :: _ => exact ⟨_, _, rfl, rfl, nofun⟩

variable {index : Int64} {rest : Stack}

theorem localVar_inside (hdata : m.data = .int index :: rest) (inside : Inside m.locals.size index)
    (script : Container) : m.Executes script .localVar .continuing
      { m with data := m.locals[index.toInt.toNat]?.getD .none :: rest } := by
  have popped := popInteger_eq_ok.mpr ⟨rest, hdata, rfl⟩
  have found : localIndex index { m with data := rest } = .ok index.toInt.toNat _ :=
    localIndex_eq_ok.mpr ⟨inside, rfl, rfl⟩
  have fetched : localVariable index { m with data := rest } =
      .ok (m.locals[index.toInt.toNat]?.getD .none) { m with data := rest } := by
    rw [localVariable, bind_of_ok found]
    rfl
  refine Machine.executes_of_ok ?_ rfl
  rw [bind_of_ok popped, bind_of_ok fetched]
  rfl

theorem localVar_outside (hdata : m.data = .int index :: rest)
    (outside : ¬ Inside m.locals.size index) (script : Container) :
    m.Executes script .localVar (.failed (.localOutOfRange index m.locals.size))
      { m with data := rest } := by
  have popped := popInteger_eq_ok.mpr ⟨rest, hdata, rfl⟩
  have refused : localIndex index { m with data := rest } = .error _ _ := localIndex_outside outside
  refine Machine.executes_of_error ?_ rfl
  rw [bind_of_ok popped, localVariable, bind_of_error (bind_of_error refused)]

theorem setLocalVar_inside {v : Value} (hdata : m.data = v :: .int index :: rest)
    (inside : Inside m.locals.size index) (script : Container) :
    m.Executes script .setLocalVar .continuing { m with
      data := rest, locals := m.locals.setIfInBounds index.toInt.toNat v } := by
  have popped := pop_eq_ok.mpr ⟨_, hdata, rfl⟩
  have popped' : popInteger { m with data := .int index :: rest } = .ok index _ :=
    popInteger_eq_ok.mpr ⟨rest, rfl, rfl⟩
  have stored : setLocal index v { m with data := rest } = .ok () _ :=
    setLocal_eq_ok.mpr ⟨inside, rfl⟩
  refine Machine.executes_of_ok ?_ rfl
  rw [bind_of_ok popped, bind_of_ok popped', stored]

theorem setLocalVar_outside {v : Value} (hdata : m.data = v :: .int index :: rest)
    (outside : ¬ Inside m.locals.size index) (script : Container) :
    m.Executes script .setLocalVar (.failed (.localOutOfRange index m.locals.size))
      { m with data := rest } := by
  have popped := pop_eq_ok.mpr ⟨_, hdata, rfl⟩
  have popped' : popInteger { m with data := .int index :: rest } = .ok index _ :=
    popInteger_eq_ok.mpr ⟨rest, rfl, rfl⟩
  have refused : localIndex index { m with data := rest } = .error _ _ := localIndex_outside outside
  refine Machine.executes_of_error ?_ rfl
  rw [bind_of_ok popped, bind_of_ok popped', setLocal, bind_of_error refused]

end Exec

namespace Instruction

def localIndex? (i : Instruction) : Option Int64 :=
  match i.opcode, i.machine.data with
  | .localVar, .int index :: _ => some index
  | .setLocalVar, _ :: .int index :: _ => some index
  | _, _ => none

/-- The ways in which an access to a local variable ends. -/
inductive LocalAccess (script : Container) (i : Instruction) : Prop where
  | done (index : Int64) (m : Machine) : i.localIndex? = some index →
      Inside i.machine.locals.size index → i.machine.Executes script i.opcode .continuing m →
      LocalAccess script i
  | outside (index : Int64) (m : Machine) : i.localIndex? = some index →
      ¬ Inside i.machine.locals.size index →
      i.machine.Executes script i.opcode
        (.failed (.localOutOfRange index i.machine.locals.size)) m →
      m.locals = i.machine.locals → LocalAccess script i
  | operand (e : Fault) (m : Machine) : i.localIndex? = none →
      i.machine.Executes script i.opcode (.failed e) m → m.locals = i.machine.locals →
      (∀ index count, e ≠ .localOutOfRange index count) → LocalAccess script i

theorem localAccess_localVar (script : Container) (m : Machine) :
    LocalAccess script ⟨.localVar, m⟩ := by
  by_cases h : ∃ index rest, m.data = .int index :: rest
  · obtain ⟨index, rest, hdata⟩ := h
    have hindex : localIndex? ⟨.localVar, m⟩ = some index := by simp [localIndex?, hdata]
    by_cases inside : Inside m.locals.size index
    · exact .done index _ hindex inside (Exec.localVar_inside hdata inside script)
    · exact .outside index _ hindex inside (Exec.localVar_outside hdata inside script) rfl
  · push Not at h
    obtain ⟨e, m', refused, kept, other⟩ := Exec.popInteger_fault h
    refine .operand e m' ?_ (Machine.executes_of_error (bind_of_error refused) rfl) kept other
    rw [localIndex?]
    split
    · exact absurd ‹_› (h _ _)
    · contradiction
    · rfl

theorem localAccess_setLocalVar (script : Container) (m : Machine) :
    LocalAccess script ⟨.setLocalVar, m⟩ := by
  cases hdata : m.data with
  | nil =>
    have hindex : localIndex? ⟨.setLocalVar, m⟩ = none := by simp [localIndex?, hdata]
    exact .operand .stackUnderflow m hindex
      (Machine.executes_of_error (bind_of_error (Exec.pop_of_nil hdata)) rfl) rfl nofun
  | cons v data =>
    by_cases h : ∃ index rest, data = .int index :: rest
    · obtain ⟨index, rest, rfl⟩ := h
      have hindex : localIndex? ⟨.setLocalVar, m⟩ = some index := by simp [localIndex?, hdata]
      by_cases inside : Inside m.locals.size index
      · exact .done index _ hindex inside (Exec.setLocalVar_inside hdata inside script)
      · exact .outside index _ hindex inside (Exec.setLocalVar_outside hdata inside script) rfl
    · push Not at h
      have popped := Exec.pop_eq_ok.mpr ⟨data, hdata, rfl⟩
      obtain ⟨e, m', refused, kept, other⟩ := @Exec.popInteger_fault { m with data } h
      refine .operand e m' ?_ (Machine.executes_of_error ?_ rfl) kept other
      · rw [localIndex?]
        split
        · contradiction
        · rename_i hcons
          rw [hdata] at hcons
          cases hcons
          exact absurd rfl (h _ _)
        · rfl
      · exact (bind_of_ok popped).trans (bind_of_error refused)

theorem localAccess {i : Instruction} (h : i.opcode = .localVar ∨ i.opcode = .setLocalVar)
    (script : Container) : i.LocalAccess script := by
  obtain ⟨op, m⟩ := i
  rcases h with rfl | rfl
  · exact localAccess_localVar script m
  · exact localAccess_setLocalVar script m

theorem locals_writes_of_ne {i : Instruction} (other : i.opcode ≠ .setLocalVar)
    (memory : Memory) : (i.writes memory).locals = memory.locals := by
  rw [writes]
  split
  · rfl
  · rfl
  · exact absurd ‹_› other
  · rfl

theorem locals_of_failed {script : Container} {host : Host σ} {i : Instruction} {w w' : World σ}
    {fault : Fault} {m : Machine}
    (h : i.machine.execute script host i.opcode.code w = (.failed fault, m, w')) :
    m.locals = i.machine.locals := by
  by_cases op : i.opcode = .setLocalVar
  · cases localAccess (.inr op) script with
    | done _ _ _ _ done =>
      rw [done] at h
      cases h
    | outside _ _ _ _ failed kept | operand _ _ _ failed kept =>
      rw [failed] at h
      cases h
      exact kept
  · have left := congrArg Memory.locals (i.memory_left script)
    rw [Exec.left, Machine.execute_failed h, locals_writes_of_ne op] at left
    exact left

def assigned? (index : Nat) (i : Instruction) : Option Value :=
  match i.opcode, i.machine.data with
  | .setLocalVar, v :: .int n :: _ => if n.toInt = index then some v else none
  | _, _ => none

end Instruction

/-! What the variables hold. -/

def lastAssigned (index : Nat) (trace : List Instruction) : Option Value :=
  (trace.filterMap (·.assigned? index)).getLast?

/-- What instructions leave in a local variable that was zero before them. -/
def localAfter (trace : List Instruction) (index : Nat) : Value :=
  (lastAssigned index trace).getD (.int 0)

theorem lastAssigned_append (index : Nat) (trace further : List Instruction) :
    lastAssigned index (trace ++ further) =
      (lastAssigned index further).or (lastAssigned index trace) := by
  rw [lastAssigned, List.filterMap_append, List.getLast?_append]
  rfl

theorem Memory.size_store (memory : Memory) (n : Int64) (v : Value) :
    (memory.store n v).locals.size = memory.locals.size := by
  rw [store]
  split
  · exact Array.size_setIfInBounds
  · rfl

theorem Memory.getElem?_store (memory : Memory) (n : Int64) (v : Value) {index : Nat}
    (inside : index < memory.locals.size) :
    (memory.store n v).locals[index]? =
      if n.toInt = index then some v else memory.locals[index]? := by
  rw [store]
  split
  · change (memory.locals.setIfInBounds _ _)[index]? = _
    rw [Array.getElem?_setIfInBounds]
    by_cases same : n.toInt = index
    · have hindex : n.toInt.toNat = index := by omega
      rw [if_pos hindex, if_pos same, if_pos (by rwa [hindex])]
    · have hindex : n.toInt.toNat ≠ index := by omega
      rw [if_neg hindex, if_neg same]
  · rw [if_neg (by omega)]

namespace Instruction

theorem assigned?_of_ne {i : Instruction} (other : i.opcode ≠ .setLocalVar) (index : Nat) :
    i.assigned? index = none := by
  rw [assigned?]
  split
  · exact absurd ‹_› other
  · rfl

theorem size_writes (i : Instruction) (memory : Memory) :
    (i.writes memory).locals.size = memory.locals.size := by
  rw [writes]
  split
  · rfl
  · rfl
  · exact memory.size_store _ _
  · rfl

theorem getElem?_writes (i : Instruction) (memory : Memory) {index : Nat}
    (inside : index < memory.locals.size) :
    (i.writes memory).locals[index]? = (i.assigned? index).or memory.locals[index]? := by
  by_cases other : i.opcode ≠ .setLocalVar
  · rw [locals_writes_of_ne other, assigned?_of_ne other, Option.none_or]
  · obtain ⟨op, m⟩ := i
    obtain rfl : op = .setLocalVar := not_not.mp other
    rw [writes, assigned?]
    split
    · contradiction
    · contradiction
    · rename_i v n _ _ hdata
      change m.data = _ at hdata
      simp only [hdata, memory.getElem?_store n v inside]
      split <;> rfl
    · simp_all

end Instruction

theorem locals_remembered (memory : Memory) (trace : List Instruction) :
    (remembered memory trace).locals.size = memory.locals.size ∧
      ∀ index < memory.locals.size, (remembered memory trace).locals[index]? =
        (lastAssigned index trace).or memory.locals[index]? := by
  induction trace generalizing memory with
  | nil => exact ⟨rfl, fun _ _ => rfl⟩
  | cons i rest ih =>
    obtain ⟨size, value⟩ := ih (i.writes memory)
    rw [i.size_writes] at size value
    refine ⟨size, fun index inside => ?_⟩
    have first : lastAssigned index [i] = i.assigned? index := by
      cases h : i.assigned? index <;> simp [lastAssigned, h]
    have split := lastAssigned_append index [i] rest
    rw [List.singleton_append, first] at split
    change (remembered (i.writes memory) rest).locals[index]? = _
    rw [value index inside, i.getElem?_writes memory inside, split, Option.or_assoc]

structure Machine.Recalls (count : Nat) (past : List Instruction) (m : Machine) : Prop where
  size : m.locals.size = count
  value : ∀ index < count, m.locals[index]? = some (localAfter past index)

theorem Machine.recalls_new (owner : Option Handle) (count : Nat) :
    (Machine.new owner count).Recalls count [] where
  size := Array.size_replicate
  value index inside := by
    change (Array.replicate count (Value.int 0))[index]? = some (.int 0)
    rw [Array.getElem?_replicate, if_pos inside]

theorem Machine.Recalls.further {count : Nat} {past trace : List Instruction} {m m' : Machine}
    {memory : Memory} (h : m.Recalls count past) (before : memory.locals = m.locals)
    (after : m'.locals = (remembered memory trace).locals) :
    m'.Recalls count (past ++ trace) := by
  obtain ⟨size, value⟩ := locals_remembered memory trace
  rw [before, h.size] at size value
  rw [← after] at size value
  refine ⟨size, fun index inside => ?_⟩
  rw [value index inside, h.value index inside, localAfter, localAfter, lastAssigned_append]
  cases lastAssigned index trace <;> rfl

theorem Session.locals_begin (command : Command) (s : Session) (w : World σ) :
    (s.begin command w).progress.session.machine.locals = s.machine.locals := by
  cases h : s.begin command w with
  | declined outcome s₁ w₁ =>
    have begun := beginning command s w
    rw [h] at begun
    cases begun <;> rfl
  | started p =>
    have memory := congrArg Memory.locals (memory_started h)
    cases command <;> exact memory

theorem Obeyed.recalls {script : Container} {owner : Option Handle} {config : Config}
    {deeds : List Deed} {s : Session} (h : Obeyed (.new script owner config) deeds s) :
    s.machine.Recalls config.localCount (deeds.flatMap (·.performed)) := by
  generalize hnew : Session.new script owner config = new at h
  induction h with
  | nil =>
    subst hnew
    exact Machine.recalls_new owner config.localCount
  | @snoc _ host fuel command _ s₁ s' w _ outcome deeds _ hobey ih =>
    have memory := congrArg Memory.locals (Session.memory_obey hobey)
    rw [List.flatMap_append, List.flatMap_singleton]
    cases command <;> exact (ih hnew).further rfl memory

structure Instruction.UsesLocals (script : Container) (count : Nat) (value : Nat → Value)
    (i : Instruction) : Prop where
  reads : i.opcode = .localVar → ∀ index rest, i.machine.data = .int index :: rest →
    Inside count index → i.machine.Executes script i.opcode .continuing
      { i.machine with data := value index.toInt.toNat :: rest }
  stores : i.opcode = .setLocalVar → ∀ v index rest, i.machine.data = v :: .int index :: rest →
    Inside count index → i.machine.Executes script i.opcode .continuing { i.machine with
      data := rest, locals := i.machine.locals.setIfInBounds index.toInt.toNat v }
  refuses : i.opcode = .localVar ∨ i.opcode = .setLocalVar → ∀ index size,
    (∃ m, i.machine.Executes script i.opcode (.failed (.localOutOfRange index size)) m) ↔
      i.localIndex? = some index ∧ ¬ Inside count index ∧ size = count
  keeps : ∀ {σ : Type} (host : Host σ) (w w' : World σ) (fault : Fault) (m : Machine),
    i.machine.execute script host i.opcode.code w = (.failed fault, m, w') →
      m.locals = i.machine.locals

theorem Machine.Recalls.usesLocals {count : Nat} {past : List Instruction} {i : Instruction}
    (h : i.machine.Recalls count past) (script : Container) :
    i.UsesLocals script count (localAfter past) where
  reads op index rest hdata inside := by
    have bound : index.toInt.toNat < count := by
      rw [Inside] at inside
      omega
    rw [← h.size] at inside
    have reads := Exec.localVar_inside hdata inside script
    rwa [h.value _ bound, Option.getD_some, ← op] at reads
  stores op v index rest hdata inside := by
    rw [← h.size] at inside
    rw [op]
    exact Exec.setLocalVar_inside hdata inside script
  refuses op index size := by
    rw [← h.size]
    cases Instruction.localAccess op script with
    | done index' m hindex inside done =>
      rw [hindex]
      constructor
      · rintro ⟨m', failed⟩
        exact nomatch (failed.unique done).1
      · rintro ⟨⟨⟩, outside, -⟩
        exact absurd inside outside
    | outside index' m hindex outside failed =>
      rw [hindex]
      constructor
      · rintro ⟨m', failed'⟩
        obtain ⟨⟨⟩, -⟩ := failed.unique failed'
        exact ⟨rfl, outside, rfl⟩
      · rintro ⟨⟨⟩, -, rfl⟩
        exact ⟨m, failed⟩
    | operand e m hindex failed _ other =>
      rw [hindex]
      refine ⟨?_, nofun⟩
      rintro ⟨m', failed'⟩
      obtain ⟨⟨⟩, -⟩ := failed.unique failed'
      exact absurd rfl (other index size)
  keeps host w w' fault m := Instruction.locals_of_failed

/-- Local variables persist. Whatever commands a session has had, and however many ticks a further
one has run for, there are as many variables as were configured, and each holds what was last
stored to it by an instruction of any of these runs, or zero. The next instruction of the run
reads and stores just that, and is refused just at an index that no variable has. -/
theorem locals_persist {script : Container} {owner : Option Handle} {config : Config}
    {deeds : List Deed} {s : Session} (h : Obeyed (.new script owner config) deeds s) :
    let past := deeds.flatMap (·.performed)
    s.machine.Recalls config.localCount past ∧
    ∀ {σ : Type} (host : Host σ) (command : Command) (w : World σ) (n : Nat),
      let run := (s.begin command w).progress
      let now := past ++ run.trace host n
      (run.advance host n).session.machine.Recalls config.localCount now ∧
      ∀ r i, run.advance host n = .going r → r.instruction? = some i →
        i.machine.locals = r.session.machine.locals ∧
        i.UsesLocals s.script config.localCount (localAfter now) := by
  intro past
  refine ⟨h.recalls, fun host command w n => ?_⟩
  intro run now
  have recalls : (run.advance host n).session.machine.Recalls config.localCount now := by
    have memory := congrArg Memory.locals (run.memory_advance host n)
    exact h.recalls.further (s.locals_begin command w) memory
  refine ⟨recalls, fun r i hr hi => ?_⟩
  rw [hr] at recalls
  obtain ⟨code, position, hmachine⟩ := Machine.machine_of_instruction? (Run.machine_instruction? hi)
  have recalls' : i.machine.Recalls config.localCount now := by
    rw [hmachine]
    exact ⟨recalls.size, recalls.value⟩
  exact ⟨by rw [hmachine]; rfl, recalls'.usesLocals s.script⟩

def rememberingScript : Container where
  name := "remember"
  code :=
    let store := Block.ofSteps [.int 1, .int 7, .plain .setLocalVar, .int 64, .plain .localVar]
    let read := Block.ofSteps [.int 1, .plain .localVar, .plain .exit]
    (Draft.ofSteps [.procedure { name := "store", body := store },
      .procedure { name := "read", body := read }]).build.toArray
  procedures := #[⟨"store", ⟨0⟩, 0, 0, 122, 0⟩, ⟨"read", ⟨0⟩, 0, 0, 144, 0⟩]
  identifiers := [⟨6, "store"⟩, ⟨14, "read"⟩]
  strings := []

def rememberingNext? (s : Session) (w : World Unit) : Option Instruction :=
  match (s.begin (.call "read" {}) w).progress.advance Refusing.host 1 with
  | .going r => r.instruction?
  | .ended .. => none

theorem remember_locals_persist :
    Container.decode "remember" rememberingScript.code = .ok rememberingScript ∧
    ∃ d s w v, Obeyed (.new rememberingScript none {}) [d] s ∧
      d.outcome = .aborted (.localOutOfRange 64 64) ∧
      s.machine.locals[1]? = some v ∧ v.int? = some 7 ∧
      ∃ r i, (s.begin (.call "read" {}) w).progress.advance Refusing.host 1 = .going r ∧
        r.instruction? = some i ∧ i.opcode = .localVar ∧ i.localIndex? = some 1 ∧
        i.UsesLocals s.script 64 (localAfter (d.performed ++
          (s.begin (.call "read" {}) w).progress.trace Refusing.host 1)) := by
  let fresh := Session.new rememberingScript none {}
  let store : Command := .call "store" {}
  have stored : (localAfter (fresh.performed Refusing.host 5 store { host := () }) 1).int? =
      some 7 := by decide +kernel
  have reads : (fresh.obey Refusing.host 5 store { host := () }).bind (fun (outcome, s, w) =>
      (rememberingNext? s w).map fun i => (outcome, i.opcode, i.localIndex?)) =
      some (.aborted (.localOutOfRange 64 64), .localVar, some 1) := by decide +kernel
  obtain ⟨⟨outcome, s, w⟩, hobey, reads⟩ := Option.bind_eq_some_iff.mp reads
  obtain ⟨i, hnext, reads⟩ := Option.map_eq_some_iff.mp reads
  obtain ⟨houtcome, reads⟩ := Prod.mk.inj reads
  obtain ⟨hopcode, hindex⟩ := Prod.mk.inj reads
  have history := Obeyed.snoc (Obeyed.nil _) hobey
  obtain ⟨recalls, further⟩ := locals_persist history
  obtain ⟨-, uses⟩ := further Refusing.host (.call "read" {}) w 1
  rw [List.nil_append, List.flatMap_singleton] at recalls uses
  refine ⟨by decide +kernel, _, s, w, _, history, houtcome, recalls.value 1 (by decide), stored, ?_⟩
  rw [rememberingNext?] at hnext
  split at hnext
  · rename_i r hr
    exact ⟨r, i, hr, hnext, hopcode, hindex, (uses r i hr hnext).2⟩
  · cases hnext

end ScriptMachine
