import ScriptMachine.Proofs.Machine.Frames
import ScriptMachine.Proofs.Machine.Stepping

/-!
# What instructions do to the data stack

An instruction that succeeds takes values off the top of the data stack and leaves others
there. Their numbers are fixed by the opcode but for two: a return also takes the arguments
it finds counted, and popping to the base takes all above the frame base. What lies beneath
is left alone, except that a store writes to one slot of it.
-/

namespace ScriptMachine

/-- How many values an opcode takes off the data stack and leaves there in their place. A
return takes its arguments besides. -/
def Opcode.arity : Opcode → Nat × Nat
  | .noop | .criticalStart | .criticalDone | .exitProg | .exit | .pushBase | .popBase | .popToBase
  | .setGlobal | .scriptOverrides => (0, 0)
  | .pushInt | .pushFloat | .pushString | .dup | .returnToData | .selfObj | .sourceObj | .targetObj
  | .fixedParam | .usedSkill | .dudeObj => (0, 1)
  | .pop | .dataToReturn | .jump | .call | .exportVar | .giveExpPoints | .playSfx | .displayMsg
  | .playMovie => (1, 0)
  | .lookupStringProc | .fetch | .fetchGlobal | .localVar | .bitNot | .floor | .negate | .not
  | .fetchExternal | .mapVar | .globalVar | .objName | .objType => (1, 1)
  | .jumpUnless | .loopUnless | .checkArgCount | .store | .storeGlobal | .setLocalVar
  | .storeExternal | .setMapVar | .setGlobalVar => (2, 0)
  | .ret | .eq | .ne | .lt | .le | .gt | .ge | .add | .sub | .mul | .div | .modulus | .bitAnd
  | .bitOr | .bitXor | .concat | .and | .or | .random | .getCritterStat | .messageStr
  | .messageSpeech | .callScriptProcedure => (2, 1)
  | .swap => (2, 2)
  | .setCritterStat => (3, 1)

def Opcode.isRegular : Opcode → Bool
  | .ret | .popToBase | .store | .storeGlobal => false
  | _ => true

def Turn.pushes : Turn → Nat
  | .draw .. => 1
  | .ask q => if q.deliver.isSome then 1 else 0
  | _ => 0

namespace Exec

variable {α β : Type}

/-- Work that takes `ins` values off the data stack and leaves `outs` there, those counted
that its result still promises. -/
def Shifts (due : α → Nat) (ins outs : Nat) (x : Exec α) : Prop :=
  ∀ m a m', x m = .ok a m' →
    ∃ pushed : Stack, pushed.length + due a = outs ∧ ins ≤ m.data.length ∧
      m'.data = pushed ++ m.data.drop ins

def nothing (_ : α) : Nat := 0

section

variable {due : β → Nat} {ins outs ins' outs' : Nat}

theorem Shifts.bind {x : Exec α} {k : α → Exec β} (hx : Shifts nothing ins outs x)
    (hk : ∀ a, Shifts due ins' outs' (k a)) :
    Shifts due (ins + (ins' - outs)) (outs' + (outs - ins')) (x >>= k) := by
  intro m b m' h
  obtain ⟨a, m₁, h₁, h₂⟩ := bind_eq_ok.mp h
  obtain ⟨pushed, hlength, hins, hdata⟩ := hx m a m₁ h₁
  obtain ⟨pushed', hlength', hins', hdata'⟩ := hk a m₁ b m' h₂
  rw [nothing, Nat.add_zero] at hlength
  have depth : m₁.data.length = pushed.length + (m.data.length - ins) := by
    rw [hdata, List.length_append, List.length_drop]
  refine ⟨pushed' ++ pushed.drop ins', ?_, ?_, ?_⟩
  · rw [List.length_append, List.length_drop]
    omega
  · omega
  · rw [hdata', hdata, List.drop_append, List.drop_drop, List.append_assoc, hlength]

theorem Shifts.exact {x : Exec β} (h : Shifts due ins outs x) (hins : ins = ins')
    (houts : outs = outs') : Shifts due ins' outs' x := by
  rw [← hins, ← houts]
  exact h

theorem shifts_pure (b : β) : Shifts due 0 (due b) (pure b) := by
  intro m a m' h
  obtain ⟨rfl, rfl⟩ := pure_eq_ok.mp h
  exact ⟨[], Nat.zero_add _, Nat.zero_le _, rfl⟩

theorem shifts_throw (e : Fault) : Shifts due ins outs (throw e : Exec β) :=
  fun _ _ _ h => absurd h throw_ne_ok

theorem Shifts.ite {c : Prop} [Decidable c] {x y : Exec β} (hx : Shifts due ins outs x)
    (hy : Shifts due ins outs y) : Shifts due ins outs (if c then x else y) := by
  split
  · exact hx
  · exact hy

theorem Shifts.guard {c : Prop} [Decidable c] {e : Fault} {x : Exec β}
    (hx : Shifts due ins outs x) :
    Shifts due ins outs
      (if c then (throw e : Exec Unit) >>= fun _ => x else pure () >>= fun _ => x) :=
  fun m a m' h => hx m a m' (guard_eq_ok.mp h).2

theorem shifts_of_keeps {x : Exec α} (h : Keeps (·.data) x) : Shifts nothing 0 0 x := by
  intro m a m' hx
  have kept := h m
  rw [left, hx] at kept
  exact ⟨[], rfl, Nat.zero_le _, kept⟩

theorem shifts_onData {w : Stack.Work α} (h : ∀ s a s', w s = .ok a s' →
      ∃ pushed : Stack, pushed.length = outs ∧ ins ≤ s.length ∧ s' = pushed ++ s.drop ins) :
    Shifts nothing ins outs (onData w) := by
  intro m a m' hx
  obtain ⟨s, hs, rfl⟩ := onData_eq_ok.mp hx
  exact h m.data a s hs

end

/-! The pieces that instructions are made of. -/

theorem shifts_push (v : Value) : Shifts nothing 0 1 (push v) := by
  apply shifts_onData
  intro s _ s' h
  exact ⟨[v], rfl, Nat.zero_le _, Stack.push_eq_ok.mp h⟩

theorem shifts_pop : Shifts nothing 1 0 pop := by
  apply shifts_onData
  intro s v s' h
  obtain rfl := Stack.pop_eq_ok.mp h
  exact ⟨[], rfl, Nat.le_add_left 1 _, rfl⟩

theorem shifts_popAs {expected : Expectation} {view : Value → Option α} :
    Shifts nothing 1 0 (onData (Stack.popAs expected view)) := by
  apply shifts_onData
  intro s a s' h
  obtain ⟨v, rfl, -⟩ := Stack.popAs_eq_ok.mp h
  exact ⟨[], rfl, Nat.le_add_left 1 _, rfl⟩

theorem shifts_popInteger : Shifts nothing 1 0 popInteger := shifts_popAs

theorem shifts_popString : Shifts nothing 1 0 popString := shifts_popAs

theorem shifts_popObject : Shifts nothing 1 0 popObject := shifts_popAs

theorem shifts_popLogical : Shifts nothing 1 0 popLogical := by
  apply shifts_onData
  intro s b s' h
  cases s with
  | nil => cases h
  | cons v rest =>
    cases h
    exact ⟨[], rfl, Nat.le_add_left 1 _, rfl⟩

theorem shifts_top : Shifts nothing 0 0 (onData Stack.top) := by
  apply shifts_onData
  intro s v s' h
  exact ⟨[], rfl, Nat.zero_le _, (Stack.top_eq_ok.mp h).1⟩

theorem shifts_slot (index : Nat) : Shifts nothing 0 0 (onData (Stack.slot index)) := by
  apply shifts_onData
  intro s v s' h
  exact ⟨[], rfl, Nat.zero_le _, (Stack.slot_eq_ok.mp h).2⟩

theorem shifts_get : Shifts nothing 0 0 (get : Exec Machine) := shifts_of_keeps keeps_get

theorem shifts_modify {g : Machine → Machine} (h : ∀ m, (g m).data = m.data) :
    Shifts nothing 0 0 (modify g : Exec Unit) := shifts_of_keeps (keeps_modify h)

theorem shifts_onCalls (w : Stack.Work α) : Shifts nothing 0 0 (onCalls w) :=
  shifts_of_keeps (keeps_onCalls (fun _ _ => rfl) w)

theorem shifts_ofValue (r : Except ValueError α) : Shifts nothing 0 0 (ofValue r) :=
  shifts_of_keeps (keeps_ofValue r)

theorem shifts_procedureAt (script : Container) (index : Int64) :
    Shifts nothing 0 0 (procedureAt script index) :=
  shifts_of_keeps (keeps_procedureAt script index)

theorem shifts_jump (code : Array UInt8) (address : Int64) :
    Shifts nothing 0 0 (jump code address) := by
  apply shifts_of_keeps
  apply Keeps.ite (keeps_modify _) (keeps_throw _)
  exact fun _ => rfl

theorem shifts_operand (code : Array UInt8) (read : Reader.Work α) :
    Shifts nothing 0 0 (operand code read) := by
  apply shifts_of_keeps
  intro m
  rw [left, operand]
  cases read (m.reader code) <;> rfl

/-! Families of instructions. -/

theorem shifts_literal (code : Array UInt8) (read : Reader.Work α) (view : α → Value) :
    Shifts nothing 0 1 (literal code read view) :=
  (shifts_operand code read).bind fun _ => shifts_push _

theorem shifts_pushString (script : Container) : Shifts nothing 0 1 (pushString script) := by
  refine Shifts.exact ((shifts_operand _ _).bind fun offset => shifts_get.bind fun m =>
    (?_ : Shifts nothing 0 1 _)) rfl rfl
  cases if beforeVariableName m script.code then script.identifier? offset
    else script.string? offset with
  | some s => exact shifts_push _
  | none => exact shifts_throw _

theorem shifts_binary (f : Value → Value → Except ValueError Value) :
    Shifts nothing 2 1 (binary f) :=
  (shifts_pop.bind fun _ => shifts_pop.bind fun _ => (shifts_ofValue _).bind fun _ =>
    shifts_push _).exact rfl rfl

theorem shifts_unary (f : Value → Except ValueError Value) : Shifts nothing 1 1 (unary f) :=
  (shifts_pop.bind fun _ => (shifts_ofValue _).bind fun _ => shifts_push _).exact rfl rfl

theorem shifts_logical (f : Bool → Bool → Bool) : Shifts nothing 2 1 (logical f) :=
  (shifts_popLogical.bind fun _ => shifts_popLogical.bind fun _ => shifts_push _).exact rfl rfl

theorem shifts_jumpUnless (code : Array UInt8) : Shifts nothing 2 0 (jumpUnless code) :=
  (shifts_popLogical.bind fun _ => shifts_popInteger.bind fun _ =>
    .ite (shifts_pure ()) (shifts_jump _ _)).exact rfl rfl

theorem shifts_call (script : Container) : Shifts nothing 1 0 (call script) :=
  (shifts_popInteger.bind fun _ => (shifts_procedureAt _ _).bind fun p => shifts_get.bind fun _ =>
    (shifts_onCalls _).bind fun _ => (shifts_jump _ _).bind fun _ => shifts_pure p).exact rfl rfl

theorem shifts_checkArgCount (script : Container) :
    Shifts nothing 2 0 (checkArgCount script) :=
  (shifts_popInteger.bind fun _ => shifts_popInteger.bind fun _ =>
    (shifts_procedureAt _ _).bind fun _ => .ite (shifts_pure ()) (shifts_throw _)).exact rfl rfl

theorem shifts_lookupProcedure (script : Container) :
    Shifts nothing 1 1 (lookupProcedure script) := by
  refine Shifts.exact (shifts_popString.bind fun name => (?_ : Shifts nothing 0 1 _)) rfl rfl
  cases script.index? name with
  | some index => exact shifts_push _
  | none => exact shifts_throw _

theorem shifts_pushBase : Shifts nothing 0 0 pushBase := by
  refine Shifts.exact (shifts_top.bind fun top => shifts_get.bind fun m =>
    (?_ : Shifts nothing 0 0 _)) rfl rfl
  cases top with
  | int n =>
    apply Shifts.guard
    apply Shifts.guard
    refine (shifts_onCalls _).bind fun _ => shifts_modify ?_
    exact fun _ => rfl
  | _ => exact shifts_throw _

theorem shifts_popBase : Shifts nothing 0 0 popBase := by
  refine Shifts.exact ((shifts_onCalls _).bind fun base =>
    .guard (?_ : Shifts nothing 0 0 _)) rfl rfl
  refine shifts_modify ?_
  exact fun _ => rfl

theorem shifts_fetchSlot (base : Machine → Nat) : Shifts nothing 1 1 (fetchSlot base) :=
  (shifts_popInteger.bind fun _ => shifts_get.bind fun _ =>
    (shifts_of_keeps (keeps_slotAt _ _)).bind fun _ => (shifts_slot _).bind fun _ =>
      shifts_push _).exact rfl rfl

theorem shifts_swap : Shifts nothing 2 2 swap :=
  (shifts_pop.bind fun _ => shifts_pop.bind fun _ => (shifts_push _).bind fun _ =>
    shifts_push _).exact rfl rfl

theorem shifts_discard : Shifts nothing 1 0 (do discard pop : Exec Unit) :=
  (shifts_pop.bind fun _ => shifts_pure ()).exact rfl rfl

theorem shifts_turn (t : Turn) : Shifts Turn.pushes 0 t.pushes (pure t) := shifts_pure t

theorem Shifts.next {ins outs : Nat} {x : Exec Unit} (hx : Shifts nothing ins outs x) :
    Shifts Turn.pushes ins outs (next x) := by
  intro m t m' h
  obtain ⟨rfl, done⟩ := next_eq_ok.mp h
  exact hx m () m' done

theorem shifts_random (script : Container) :
    Shifts Turn.pushes 2 1 (perform script .random) := by
  refine Shifts.exact (shifts_popInteger.bind fun last => shifts_popInteger.bind fun first =>
    (?_ : Shifts Turn.pushes 0 1 _)) rfl rfl
  split
  · exact shifts_turn (.draw first last)
  · exact shifts_turn (.draw last first)

theorem shifts_setLocal (index : Int64) (v : Value) : Shifts nothing 0 0 (setLocal index v) := by
  apply shifts_of_keeps
  apply keeps_setLocal
  exact fun _ _ => rfl

theorem shifts_trigger (operation : String) (e : HostEffect) :
    Shifts Turn.pushes 0 0 (trigger operation e) :=
  (shifts_get.bind fun m => shifts_turn (.effect (.trigger m.owner e) operation)).exact rfl rfl

theorem shifts_message (operation : String) (view : Message → String) :
    Shifts Turn.pushes 2 1 (message operation view) :=
  (shifts_popInteger.bind fun id => shifts_popInteger.bind fun table =>
    shifts_turn (.fetch (.message table id) operation _ _)).exact rfl rfl

theorem shifts_perform (script : Container) {op : Opcode} (regular : op.isRegular = true) :
    Shifts Turn.pushes op.arity.1 op.arity.2 (perform script op) := by
  cases op with
  | ret | popToBase | store | storeGlobal => contradiction
  | noop => exact shifts_turn .next
  | exit => exact shifts_turn .halt
  | pushInt | pushFloat => exact (shifts_literal _ _ _).next
  | pushString => exact (shifts_pushString _).next
  | pop => exact shifts_discard.next
  | dup => exact ((shifts_top.bind fun _ => shifts_push _).exact rfl rfl).next
  | swap => exact shifts_swap.next
  | dataToReturn => exact ((shifts_pop.bind fun _ => shifts_onCalls _).exact rfl rfl).next
  | returnToData => exact (((shifts_onCalls _).bind fun _ => shifts_push _).exact rfl rfl).next
  | criticalStart | criticalDone | setGlobal | scriptOverrides =>
    refine (shifts_modify ?_).next
    exact fun _ => rfl
  | exitProg =>
    refine Shifts.next (((shifts_modify ?_).bind fun _ => shifts_jump _ _).exact rfl rfl)
    exact fun _ => rfl
  | jump => exact ((shifts_popInteger.bind fun _ => shifts_jump _ _).exact rfl rfl).next
  | jumpUnless | loopUnless => exact (shifts_jumpUnless _).next
  | call => exact ((shifts_call _).bind fun p => shifts_turn (.entered p)).exact rfl rfl
  | checkArgCount => exact (shifts_checkArgCount _).next
  | lookupStringProc => exact (shifts_lookupProcedure _).next
  | pushBase => exact shifts_pushBase.next
  | popBase => exact shifts_popBase.next
  | fetch | fetchGlobal => exact (shifts_fetchSlot _).next
  | localVar =>
    exact ((shifts_popInteger.bind fun _ => (shifts_of_keeps (keeps_localVariable _)).bind fun _ =>
      shifts_push _).exact rfl rfl).next
  | setLocalVar =>
    exact ((shifts_pop.bind fun _ => shifts_popInteger.bind fun _ =>
      shifts_setLocal _ _).exact rfl rfl).next
  | eq | ne | lt | le | gt | ge | add | sub | mul | div | modulus | bitAnd | bitOr | bitXor
  | concat => exact (shifts_binary _).next
  | bitNot | floor | negate => exact (shifts_unary _).next
  | and | or => exact (shifts_logical _).next
  | not => exact ((shifts_popLogical.bind fun _ => shifts_push _).exact rfl rfl).next
  | random => exact shifts_random _
  | selfObj | sourceObj | targetObj | fixedParam | usedSkill =>
    exact ((shifts_get.bind fun _ => shifts_push _).exact rfl rfl).next
  | fetchExternal =>
    exact (shifts_popString.bind fun name =>
      shifts_turn (.fetch (.fetchExternal name) _ _ _)).exact rfl rfl
  | storeExternal =>
    exact (shifts_popString.bind fun name => shifts_pop.bind fun v =>
      shifts_turn (.effect (.storeExternal name v) _)).exact rfl rfl
  | exportVar =>
    exact (shifts_popString.bind fun name =>
      shifts_turn (.effect (.exportVar name) _)).exact rfl rfl
  | mapVar =>
    exact (shifts_popInteger.bind fun index =>
      shifts_turn (.fetch (.mapVar index) _ _ _)).exact rfl rfl
  | globalVar =>
    exact (shifts_popInteger.bind fun index =>
      shifts_turn (.fetch (.globalVar index) _ _ _)).exact rfl rfl
  | setMapVar =>
    exact (shifts_pop.bind fun v => shifts_popInteger.bind fun index =>
      shifts_turn (.effect (.setMapVar index v) _)).exact rfl rfl
  | setGlobalVar =>
    exact (shifts_pop.bind fun v => shifts_popInteger.bind fun index =>
      shifts_turn (.effect (.setGlobalVar index v) _)).exact rfl rfl
  | giveExpPoints | playMovie =>
    exact (shifts_popInteger.bind fun _ => shifts_trigger _ _).exact rfl rfl
  | playSfx | displayMsg => exact (shifts_popString.bind fun _ => shifts_trigger _ _).exact rfl rfl
  | objName | objType =>
    exact (shifts_popObject.bind fun h => shifts_turn (fetchProperty _ _ _ h)).exact rfl rfl
  | getCritterStat =>
    exact (shifts_popInteger.bind fun stat => shifts_popObject.bind fun h =>
      shifts_turn (fetchProperty _ _ (.stat stat) h)).exact rfl rfl
  | setCritterStat =>
    exact (shifts_popInteger.bind fun n => shifts_popInteger.bind fun stat =>
      shifts_popObject.bind fun h => shifts_turn (.ask ⟨.setProperty h (.stat stat) (.int n), _,
        some written⟩)).exact rfl rfl
  | dudeObj => exact (shifts_turn (.fetch .player _ _ _)).exact rfl rfl
  | messageStr | messageSpeech => exact shifts_message _ _
  | callScriptProcedure =>
    exact (shifts_popString.bind fun procedure => shifts_popInteger.bind fun script =>
      shifts_get.bind fun m =>
        shifts_turn (.fetch (.callProcedure script procedure m.context) _ _ _)).exact rfl rfl

end Exec

namespace Instruction

def taken (i : Instruction) : Nat :=
  match i.opcode, i.machine.data with
  | .ret, _ :: .int count :: _ => count.toInt.toNat + 2
  | .popToBase, data => data.length - i.machine.frameBase
  | op, _ => op.arity.1

def store? (i : Instruction) : Option (Nat × Value) :=
  match i.opcode, i.machine.data with
  | .store, .int offset :: v :: _ => some (i.machine.frameBase + offset.toInt.toNat, v)
  | .storeGlobal, .int offset :: v :: _ => some (i.machine.globalsBase + offset.toInt.toNat, v)
  | _, _ => none

def beneath (i : Instruction) : Stack :=
  let rest : Stack := i.machine.data.drop i.taken
  match i.store? with
  | some (slot, v) => (rest.bottomUp.set slot v).reverse
  | none => rest

theorem taken_of_isRegular {op : Opcode} (regular : op.isRegular = true) (m : Machine) :
    (mk op m).taken = op.arity.1 ∧ (mk op m).store? = none := by
  cases op <;> first | exact ⟨rfl, rfl⟩ | contradiction

end Instruction

namespace Exec

variable {script : Container} {m m' : Machine} {turn : Turn}

/-- What a successful instruction has done to the data stack. -/
theorem perform_data {op : Opcode} (h : perform script op m = .ok turn m') :
    ∃ pushed : Stack, pushed.length + turn.pushes = op.arity.2 ∧
      (Instruction.mk op m).taken ≤ m.data.length ∧
      m'.data = pushed ++ (Instruction.mk op m).beneath := by
  cases regular : op.isRegular with
  | true =>
    obtain ⟨htaken, hstore⟩ := Instruction.taken_of_isRegular regular m
    rw [Instruction.beneath, hstore, htaken]
    exact shifts_perform script regular m turn m' h
  | false =>
    cases op with
    | ret =>
      obtain ⟨rfl, done⟩ := next_eq_ok.mp h
      obtain ⟨result, count, rest, address, calls, ⟨hdata, -, enough⟩, -, rfl⟩ :=
        ret_eq_ok.mp done
      have htaken : (Instruction.mk .ret m).taken = count.toInt.toNat + 2 := by
        simp only [Instruction.taken, hdata]
      refine ⟨[result], rfl, ?_, ?_⟩
      · rw [htaken, hdata]
        exact Nat.add_le_add_right enough 2
      · change _ = [result] ++ m.data.drop _
        rw [htaken, hdata]
        rfl
    | popToBase =>
      obtain ⟨rfl, done⟩ := next_eq_ok.mp h
      obtain rfl := modify_eq_ok.mp done
      exact ⟨[], rfl, Nat.sub_le _ _, rfl⟩
    | store | storeGlobal =>
      obtain ⟨rfl, done⟩ := next_eq_ok.mp h
      obtain ⟨offset, v, rest, hdata, -, rfl⟩ := storeSlot_eq_ok.mp done
      refine ⟨[], rfl, ?_, ?_⟩
      · rw [hdata]
        exact Nat.le_add_left 2 _
      · simp only [Instruction.beneath, Instruction.store?, Instruction.taken, hdata]
        rfl
    | _ => contradiction

end Exec

namespace Machine

variable {σ : Type}

theorem settle_data (host : Host σ) (turn : Turn) (m : Machine) (w : World σ) :
    ∃ pushed : Stack, pushed.length = turn.pushes ∧
      (m.settle host turn w).2.1.data = pushed ++ m.data := by
  cases turn with
  | next | entered | halt => exact ⟨[], rfl, rfl⟩
  | draw low high => exact ⟨[_], rfl, rfl⟩
  | ask q =>
    obtain ⟨request, operation, deliver⟩ := q
    cases deliver with
    | none => exact ⟨[], rfl, rfl⟩
    | some f => exact ⟨[_], rfl, rfl⟩

theorem step_data {script : Container} {host : Host σ} {m m' : Machine} {w w' : World σ}
    {outcome : StepOutcome} {i : Instruction} (hi : m.instruction? script = some i)
    (h : m.step script host w = (outcome, m', w')) (succeeds : ∀ fault, outcome ≠ .failed fault) :
    ∃ pushed : Stack, pushed.length = i.opcode.arity.2 ∧ i.taken ≤ m.data.length ∧
      m'.data = pushed ++ i.beneath := by
  obtain ⟨j, e, turn, m₁, hj, hperform, hsettle⟩ := step_performed h succeeds
  obtain rfl := Option.some_inj.mp (hi.symm.trans hj)
  obtain ⟨pushed, hlength, htaken, hdata⟩ := Exec.perform_data hperform
  obtain ⟨promised, hpromised, hsettled⟩ := settle_data host turn m₁ (w.note e)
  rw [hsettle] at hsettled
  rw [data_of_instruction? hi] at htaken
  refine ⟨promised ++ pushed, ?_, htaken, ?_⟩
  · rw [List.length_append, hpromised, Nat.add_comm, hlength]
  · rw [List.append_assoc, ← hdata]
    exact hsettled

end Machine

end ScriptMachine
