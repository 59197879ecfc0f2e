import Mathlib.Data.List.Basic
import ScriptMachine.Host.Refusing
import ScriptMachine.Proofs.Code.Assembling
import ScriptMachine.Proofs.Container.Drafting
import ScriptMachine.Proofs.Machine.Calls
import ScriptMachine.Proofs.Session.Slots

/-!
# Returning from a call

Return addresses, saved frame bases and values of the script share the call stack. An entry
on it stays, with all beneath it, as long as no instruction drops it, however calls nest in
between. So the return that drops the address of a call goes back behind that call and
finds the call stack as it was. If no other instruction has taken the arguments and their
count, the result stands in their place. Frames that are opened and closed in between leave
the frame base where it was.
-/

namespace ScriptMachine

variable {σ : Type} {script : Container} {host : Host σ}

def Stages (script : Container) (host : Host σ) (body : List Instruction)
    (stage : Nat → Machine) : Prop :=
  ∀ k (h : k < body.length), Steps script host (stage k) body[k] (stage (k + 1))

theorem Path.stages {m m' : Machine} {w w' : World σ} {body : List Instruction}
    (path : Path script host m w body m' w') :
    ∃ stage, stage 0 = m ∧ stage body.length = m' ∧ Stages script host body stage := by
  induction path with
  | nil m w => exact ⟨fun _ => m, rfl, rfl, nofun⟩
  | @cons m m₁ m' w w₁ w' i rest hi hstep _ ih =>
    obtain ⟨stage, first, last, steps⟩ := ih
    refine ⟨fun k => k.casesOn m stage, rfl, last, ?_⟩
    intro k h
    cases k with
    | zero =>
      refine ⟨hi, w, w₁, ?_⟩
      change m.step script host w = (.continuing, stage 0, w₁)
      rw [hstep, first]
    | succ k => exact steps k (Nat.lt_of_succ_lt_succ h)

section

variable {body : List Instruction} {stage : Nat → Machine} {saved : Value} {below : Stack}

theorem Stages.keeps_entry (stages : Stages script host body stage) {first last : Nat}
    (has : saved :: below <:+ (stage first).calls) (order : first ≤ last)
    (inside : last ≤ body.length)
    (kept : ∀ k (h : k < body.length), first ≤ k → k < last →
      ¬ body[k].Drops script below.length) :
    saved :: below <:+ (stage last).calls := by
  obtain ⟨n, rfl⟩ := Nat.exists_eq_add_of_le order
  induction n with
  | zero => exact has
  | succ n ih =>
    have further : first + n < first + n + 1 := Nat.lt_succ_self _
    have earlier := ih (Nat.le_add_right _ _) (Nat.le_of_lt inside) fun k h after before =>
      kept k h after (Nat.lt_trans before further)
    exact (stages _ inside).keeps_entry earlier (kept _ inside (Nat.le_add_right _ _) further)

structure Matched (script : Container) (body : List Instruction) (i j : Fin body.length) :
    Prop where
  order : i < j
  opens : body[i].opcode = .pushBase
  closes : body[j].opcode = .popBase
  drops : body[j].Drops script body[i].machine.calls.length
  kept : ∀ k, i < k → k < j → ¬ body[k].Drops script body[i].machine.calls.length

structure Paired (script : Container) (body : List Instruction) : Prop where
  opened : ∀ i, body[i].opcode = .pushBase → ∃ j, Matched script body i j
  closed : ∀ j, body[j].opcode = .popBase → ∃ i, Matched script body i j

instance (script : Container) (body : List Instruction) (i j : Fin body.length) :
    Decidable (Matched script body i j) :=
  decidable_of_iff (i < j ∧ body[i].opcode = .pushBase ∧ body[j].opcode = .popBase ∧
      body[j].Drops script body[i].machine.calls.length ∧
      ∀ k, i < k → k < j → ¬ body[k].Drops script body[i].machine.calls.length)
    ⟨fun ⟨order, opens, closes, drops, kept⟩ => ⟨order, opens, closes, drops, kept⟩,
      fun h => ⟨h.order, h.opens, h.closes, h.drops, h.kept⟩⟩

instance (script : Container) (body : List Instruction) : Decidable (Paired script body) :=
  decidable_of_iff ((∀ i, body[i].opcode = .pushBase → ∃ j, Matched script body i j) ∧
      ∀ j, body[j].opcode = .popBase → ∃ i, Matched script body i j)
    ⟨fun ⟨opened, closed⟩ => ⟨opened, closed⟩, fun h => ⟨h.opened, h.closed⟩⟩

variable {i j : Fin body.length}

theorem Matched.entry (matched : Matched script body i j)
    (stages : Stages script host body stage) {k : Nat} (after : i < k) (before : k ≤ j) :
    .ofNat (stage i).frameBase :: (stage i).calls <:+ (stage k).calls := by
  have opened := stages i i.isLt
  have pushed := opened.pushBase matched.opens
  refine stages.keeps_entry ?_ (Nat.succ_le_of_lt after)
    (Nat.le_of_lt (Nat.lt_of_le_of_lt before j.isLt)) ?_
  · simp only [pushed, List.suffix_refl]
  · intro l h hi hl
    rw [← opened.calls_machine]
    exact matched.kept ⟨l, h⟩ hi (Nat.lt_of_lt_of_le hl before)

theorem Matched.calls (matched : Matched script body i j)
    (stages : Stages script host body stage) :
    (stage j).calls = .ofNat (stage i).frameBase :: (stage i).calls := by
  have entry := matched.entry stages matched.order (Nat.le_refl j)
  have drops := matched.drops
  have hcalls : body[i].machine.calls = (stage i).calls := (stages i i.isLt).calls_machine
  rw [hcalls] at drops
  exact ((stages j j.isLt).drops_entry entry drops).1

theorem Matched.nested {i₀ j₀ : Fin body.length} (outer : Matched script body i₀ j₀)
    (matched : Matched script body i j) (stages : Stages script host body stage)
    (earlier : i₀ < i) (ends : j₀ ≤ j) : j₀ < i := by
  by_contra overlap
  have apart : i ≠ j₀ := by
    intro same
    have opens := matched.opens
    rw [same, outer.closes] at opens
    contradiction
  have inner : i < j₀ := Nat.lt_of_le_of_ne (Nat.not_lt.mp overlap) (Fin.val_ne_of_ne apart)
  -- The inner entry lies above the outer one, which is topmost when it is dropped.
  have hbelow := (outer.entry stages earlier (Nat.le_of_lt inner)).length_le
  have habove := (matched.entry stages inner ends).length_le
  rw [outer.calls stages] at habove
  simp only [List.length_cons] at hbelow habove
  omega

theorem toNat_of_ofNat {n : Nat} {saved : Int64} (h : Value.int saved = .ofNat n)
    (fits : n < UInt64.size) (positive : 0 ≤ saved.toInt) : saved.toInt.toNat = n := by
  obtain rfl := Value.int.inj h
  rw [Int64.toInt_ofNat', Int.bmod_def] at positive ⊢
  simp only [UInt64.size, Int64.size] at fits positive ⊢
  omega

theorem Matched.restores (matched : Matched script body i j)
    (stages : Stages script host body stage) (fits : (stage i).frameBase < UInt64.size) :
    (stage (j + 1)).frameBase = (stage i).frameBase := by
  obtain ⟨base, hcalls, positive, hbase⟩ := (stages j j.isLt).popBase matched.closes
  rw [matched.calls stages] at hcalls
  rw [hbase]
  exact toNat_of_ofNat (List.cons.inj hcalls).1.symm fits positive

theorem Stages.frameBase_of_paired (stages : Stages script host body stage)
    (paired : Paired script body) (fits : (stage 0).frameBase < UInt64.size) :
    (stage body.length).frameBase = (stage 0).frameBase := by
  -- The induction skips from the end of a frame to its beginning, and needs to know that the
  -- instructions before that leave no frame open.
  have upTo (k : Nat) (inside : k ≤ body.length)
      (whole : ∀ i j, Matched script body i j → i < k → j < k) :
      (stage k).frameBase = (stage 0).frameBase := by
    induction k using Nat.strongRecOn with
    | _ k ih =>
      cases k with
      | zero => rfl
      | succ k =>
        let last : Fin body.length := ⟨k, inside⟩
        by_cases opens : body[last].opcode = .pushBase
        · obtain ⟨j, matched⟩ := paired.opened last opens
          have later : k < j := matched.order
          have := whole last j matched (Nat.lt_succ_self k)
          omega
        by_cases closes : body[last].opcode = .popBase
        · obtain ⟨i, matched⟩ := paired.closed last closes
          have earlier : i < k := matched.order
          have outside := ih i (Nat.lt_succ_of_lt earlier) (Nat.le_of_lt i.isLt)
            fun i₀ j₀ outer before => outer.nested matched stages before
              (Nat.le_of_lt_succ (whole i₀ j₀ outer (by omega)))
          have restored := matched.restores stages (by rwa [outside])
          exact restored.trans outside
        · have kept := (stages k inside).frameBase_of_ne opens closes
          refine kept.trans (ih k (Nat.lt_succ_self k) (Nat.le_of_lt inside) ?_)
          intro i₀ j₀ matched before
          have apart : j₀ ≠ last := by
            intro same
            have := matched.closes
            rw [same] at this
            exact closes this
          have := whole i₀ j₀ matched (Nat.lt_succ_of_lt before)
          have := Fin.val_ne_of_ne apart
          change j₀.val ≠ k at this
          omega
  exact upTo body.length (Nat.le_refl _) fun _ j _ _ => j.isLt

end

theorem lastStored_eq_none {slot : Nat} {body : List Instruction}
    (h : ∀ i ∈ body, i.stored? slot = none) : lastStored slot body = none := by
  induction body with
  | nil => rfl
  | cons i rest ih =>
    rw [lastStored, ih fun j hj => h j (List.mem_cons_of_mem i hj), h i List.mem_cons_self]
    rfl

/-- What a return finds below its operands, if the arguments and their count are still where
the call left them: once as many are dropped as are counted, what was beneath them. -/
theorem Path.beneath_arguments {m m' : Machine} {w w' : World σ} {body : List Instruction}
    (path : Path script host m w body m' w') {n : Int64} {arguments below : Stack}
    (hdata : m.data = .int n :: (arguments ++ below)) (hn : n.toInt = arguments.length)
    (kept : ∀ i ∈ body, ∀ slot ≤ below.length + arguments.length, ¬ i.Takes slot)
    (counted : ∀ i ∈ body, i.stored? (below.length + arguments.length) = none)
    {result : Value} {count : Int64} {rest : Stack}
    (hdata' : m'.data = result :: .int count :: rest)
    (single : m'.data.length = below.length + arguments.length + 2) :
    let below' : Stack := rest.drop count.toInt.toNat
    below'.length = below.length ∧ ∀ slot < below.length,
      below'.bottomUp[slot]? = (lastStored slot body).or below.bottomUp[slot]? := by
  intro below'
  have depth : (arguments ++ below).length = below.length + arguments.length := by
    rw [List.length_append, Nat.add_comm]
  have depth' : rest.length = below.length + arguments.length := by
    rw [hdata'] at single
    simpa using single
  -- Up to the count, the stack below the result is what the call found, but for stores.
  have hslot (slot : Nat) (low : slot ≤ below.length + arguments.length) :
      (Stack.bottomUp (.int count :: rest))[slot]? =
        (lastStored slot body).or m.data.bottomUp[slot]? := by
    have inside : slot < m.data.length := by
      rw [hdata, List.length_cons, depth]
      exact Nat.lt_succ_of_le low
    rw [← (path.slot inside fun i hi => kept i hi slot low).2, hdata']
    refine (Stack.slot_append [result] ?_).symm
    rw [List.length_cons, depth']
    exact Nat.lt_succ_of_le low
  obtain rfl : count = n := by
    have top := hslot (below.length + arguments.length) (Nat.le_refl _)
    rw [lastStored_eq_none counted, Option.none_or, hdata, ← depth, Stack.slot_top, depth, ← depth',
      Stack.slot_top] at top
    exact Value.int.inj (Option.some.inj top)
  have drops : count.toInt.toNat = arguments.length := by
    rw [hn]
    rfl
  have hlength : below'.length = below.length := by
    rw [List.length_drop, depth', drops]
    exact Nat.add_sub_cancel _ _
  refine ⟨hlength, ?_⟩
  intro slot low
  have beneath := hslot slot (by omega)
  have hrest : (.int count :: rest : Stack) =
      (.int count :: rest.take count.toInt.toNat) ++ below' := by
    rw [List.cons_append, List.take_append_drop]
  have hcalled : m.data = (.int count :: arguments) ++ below := hdata
  rw [hrest, Stack.slot_append _ (by rwa [hlength]), hcalled, Stack.slot_append _ low] at beneath
  exact beneath

structure Returned (script : Container) (call : Instruction) (body : List Instruction)
    (ret : Instruction) : Prop where
  calls : call.opcode = .call
  returns : ret.opcode = .ret
  kept : ∀ i ∈ body, ¬ i.Drops script call.machine.calls.length
  dropped : ret.Drops script call.machine.calls.length

theorem Steps.data_of_call {m m' : Machine} {i : Instruction} (h : Steps script host m i m')
    (op : i.opcode = .call) : m'.data = i.machine.data.drop 1 := by
  obtain ⟨hi, w, w', hstep⟩ := h
  obtain ⟨pushed, hlength, -, hdata⟩ := Machine.step_data hi hstep nofun
  obtain ⟨_, machine⟩ := i
  obtain rfl := op
  obtain rfl := List.eq_nil_of_length_eq_zero hlength
  exact hdata

theorem Run.tick_of_ret {host : Host σ} {r : Run σ} {ret : Instruction} {address : Int64}
    {below : Stack} (hi : r.instruction? = some ret) (op : ret.opcode = .ret)
    (has : .int address :: below <:+ r.session.machine.calls)
    (dropped : ret.Drops r.session.script below.length)
    (inside : 0 < address.toInt ∧ address.toInt < r.session.script.size) :
    ∃ r' result count rest, r.tick host = .going r' ∧
      ret.machine.data = result :: .int count :: rest ∧
      r'.session.machine.data = result :: rest.drop count.toInt.toNat ∧
      r'.session.machine.calls = below ∧
      r'.session.machine.position = address.toInt.toNat ∧
      r'.session.machine.frameBase = r.session.machine.frameBase := by
  have hi' := Run.machine_instruction? hi
  have hbase := Machine.frameBase_of_instruction? hi'
  rw [← Machine.calls_of_instruction? hi'] at has
  obtain ⟨result, count, rest, hdata, hperform⟩ :=
    Instruction.ret_of_drops op has dropped ⟨Int.le_of_lt inside.1, inside.2⟩
  obtain ⟨e, hstep⟩ := Machine.step_of_some host r.world hi'
  rw [hperform] at hstep
  have away : address.toInt.toNat ≠ 0 := by omega
  exact ⟨_, result, count, rest, tick_of_continuing hi hstep away, hdata, rfl, rfl, rfl, hbase⟩

theorem Progress.called {host : Host σ} {ticks : Nat} {r : Run σ}
    {before body after : List Instruction} {call ret : Instruction}
    (performed : (going r).trace host ticks = before ++ call :: (body ++ ret :: after)) :
    ∃ (m m₁ : Machine) (w₁ : World σ) (r₁ : Run σ), Steps r.session.script host m call m₁ ∧
      Path r.session.script host m₁ w₁ body r₁.session.machine r₁.world ∧
      (going r).advance host (before.length + (body.length + 1)) = .going r₁ ∧
      r₁.instruction? = some ret := by
  obtain ⟨r₀, k, hr₀, -, -, htrace⟩ := exists_of_trace performed
  have htrace : (going r₀).trace host k = (call :: body) ++ ret :: after := htrace
  obtain ⟨r₁, -, hr₁, hbody, hi₁, -⟩ := exists_of_trace htrace
  have hscript : r₀.session.script = r.session.script := by rw [(advance_going hr₀).2.2]
  have unstopped : ((going r₀).advance host (call :: body).length).Unstopped := by
    rw [hr₁]
    trivial
  have path := path_of_unstopped unstopped
  rw [hbody, hr₁] at path
  change Path r₀.session.script host r₀.session.machine r₀.world (call :: body) _ _ at path
  rw [hscript] at path
  cases path with
  | cons hi hstep path =>
    refine ⟨_, _, _, r₁, ⟨hi, _, _, hstep⟩, path, ?_, hi₁⟩
    rw [advance_add, hr₀]
    exact hr₁

/-- The calling convention, at any depth. Wherever in a run a call is made, the return that
is the first to drop its address goes on right behind the call, with the call stack as it
was. If between them nothing has taken the values that the call found, or stored to the
count, the return puts its result where the arguments began, and what is beneath has changed
only where it was stored to. If the frames opened and closed between them are paired, the
frame base is as it was. Code is held in memory, and a frame base in a word of 64 bits. -/
theorem call_returns {host : Host σ} {ticks : Nat} {r : Run σ}
    {before body after : List Instruction} {call ret : Instruction}
    (performed : (Progress.going r).trace host ticks = before ++ call :: (body ++ ret :: after))
    (returned : Returned r.session.script call body ret)
    (further : call.machine.opcodeOffset + 2 < r.session.script.size)
    (addressable : r.session.script.size ≤ Int64.maxValue.toInt) :
    ∃ r', (Progress.going r).advance host (before.length + body.length + 2) = .going r' ∧
      r'.session.machine.position = call.machine.opcodeOffset + 2 ∧
      r'.session.machine.calls = call.machine.calls ∧
      (∀ {index n : Int64} {arguments below : Stack},
        call.machine.data = .int index :: .int n :: (arguments ++ below) →
        n.toInt = arguments.length →
        (∀ i ∈ body, ∀ slot ≤ below.length + arguments.length, ¬ i.Takes slot) →
        (∀ i ∈ body, i.stored? (below.length + arguments.length) = none) →
        ret.machine.data.length = below.length + arguments.length + 2 →
        ∃ (result : Value) (below' : Stack), ret.machine.data.head? = some result ∧
          r'.session.machine.data = result :: below' ∧ below'.length = below.length ∧
          ∀ slot < below.length,
            below'.bottomUp[slot]? = (lastStored slot body).or below.bottomUp[slot]?) ∧
      (Paired r.session.script body → call.machine.frameBase < UInt64.size →
        r'.session.machine.frameBase = call.machine.frameBase) := by
  obtain ⟨m, m₁, w₁, r₁, called, path, hr₁, hi₁⟩ := Progress.called performed
  have hscript : r₁.session.script = r.session.script := by rw [(Progress.advance_going hr₁).2.2]
  have hposition := Machine.position_of_instruction? called.1
  have hdata := Machine.data_of_instruction? called.1
  have hcalls := called.calls_machine
  have hbase := called.frameBase_machine
  have pushed := called.call returned.calls
  obtain ⟨stage, first, last, stages⟩ := path.stages
  have entry : .ofNat call.machine.position :: call.machine.calls <:+ r₁.session.machine.calls := by
    rw [← last]
    refine stages.keeps_entry ?_ (Nat.zero_le _) (Nat.le_refl _) ?_
    · simp only [first, pushed, hcalls, List.suffix_refl]
    · intro k h _ _
      exact returned.kept _ (List.getElem_mem h)
  -- The address survives being kept as an integer of the script.
  have address : (Int64.ofNat call.machine.position).toInt = call.machine.position := by
    have largest : Int64.maxValue.toInt = 9223372036854775807 := rfl
    apply Int64.toInt_ofNat_of_lt
    omega
  have dropped := returned.dropped
  rw [← hscript] at dropped
  obtain ⟨r', result, count, rest, htick, hoperands, hdata', hcalls', hposition', hbase'⟩ :=
    Run.tick_of_ret hi₁ returned.returns entry dropped (by rw [address, hscript]; omega)
  refine ⟨r', ?_, ?_, hcalls', ?_, ?_⟩
  · have ticks : before.length + body.length + 2 = before.length + (body.length + 1) + 1 := by omega
    rw [ticks, Progress.advance_add, hr₁]
    exact htick
  · rw [hposition', address, hposition]
    rfl
  · intro index n arguments below hcall hn kept counted single
    have found := Machine.data_of_instruction? (Run.machine_instruction? hi₁)
    have hdata₁ : m₁.data = .int n :: (arguments ++ below) := by
      rw [called.data_of_call returned.calls, hcall]
      rfl
    rw [found] at hoperands single ⊢
    obtain ⟨hlength, hslots⟩ :=
      path.beneath_arguments hdata₁ hn kept counted hoperands single
    exact ⟨result, _, by rw [hoperands]; rfl, hdata', hlength, hslots⟩
  · intro paired fits
    have kept : m₁.frameBase = m.frameBase := by
      apply called.frameBase_of_ne <;> simp [returned.calls]
    rw [hbase, ← kept, ← first] at fits ⊢
    rw [hbase', ← last]
    exact stages.frameBase_of_paired paired fits

def echoScript : Container where
  name := "echo"
  code :=
    let main := Block.ofSteps [.plain .call, .plain .ret]
    let echo := Block.ofSteps
      [.plain .pushBase, .int 0, .plain .fetch, .plain .popBase, .plain .ret]
    (Draft.ofSteps [.procedure { name := "main", body := main },
      .procedure { name := "echo", argumentCount := 1, body := echo }]).build.toArray
  procedures := #[⟨"main", ⟨0⟩, 0, 0, 122, 0⟩, ⟨"echo", ⟨0⟩, 0, 0, 126, 1⟩]
  identifiers := [⟨6, "main"⟩, ⟨14, "echo"⟩]
  strings := []

def echoRun : Run Unit where
  session :=
    { script := echoScript
      machine :=
        { position := 122, data := [.int 1, .int 1, .int 7, .int 0], calls := [.int 0] } }
  world := { host := () }
  base := 0

theorem echo_returns :
    Container.decode "echo" echoScript.code = .ok echoScript ∧
    ∃ r', (Progress.going echoRun).advance Refusing.host 6 = .going r' ∧
      r'.session.machine.position = 124 ∧ r'.session.machine.calls = [.int 0] ∧
      r'.session.machine.frameBase = 0 ∧
      ∃ result, r'.session.machine.data = [result, .int 0] := by
  let performed := (Progress.going echoRun).trace Refusing.host 6
  let body := performed.tail.dropLast
  have first : performed.head?.map (·.opcode) = some .call := by decide +kernel
  have last : performed.tail.getLast?.map (fun i => (i.opcode, i.machine.data.length,
      decide (i.Drops echoScript 1))) = some (.ret, 4, true) := by decide +kernel
  have depth : body.length = 4 := by decide +kernel
  have kept : ∀ i ∈ body, ¬ i.Drops echoScript 1 := by decide +kernel
  have untaken : ∀ i ∈ body, ∀ slot ≤ 2, ¬ i.Takes slot := by decide +kernel
  have unstored : ∀ i ∈ body, (i.stored? 2).isNone := by decide +kernel
  have written : (lastStored 0 body).isNone := by decide +kernel
  have paired : Paired echoScript body := by decide +kernel
  obtain ⟨call, hcall, opens⟩ := Option.map_eq_some_iff.mp first
  obtain ⟨ret, hret, closes⟩ := Option.map_eq_some_iff.mp last
  obtain ⟨returns, single, dropped⟩ : ret.opcode = .ret ∧ ret.machine.data.length = 4 ∧
      ret.Drops echoScript 1 := by simpa using closes
  have split : performed = [] ++ call :: (body ++ ret :: []) := by
    rw [List.nil_append, List.dropLast_append_getLast? ret hret]
    exact (List.cons_head?_tail hcall).symm
  obtain ⟨r, k, hr, -, hi, -⟩ := Progress.trace_eq_cons split
  obtain rfl := Progress.going.inj hr
  obtain ⟨code, position, hmachine⟩ :=
    Machine.machine_of_instruction? (Run.machine_instruction? hi)
  have hcalls : call.machine.calls = [.int 0] := by rw [hmachine]; rfl
  have hdata : call.machine.data = .int 1 :: .int 1 :: ([.int 7] ++ [.int 0]) := by
    rw [hmachine]
    rfl
  have hoffset : call.machine.opcodeOffset = 122 := by rw [hmachine]; rfl
  have hbase : call.machine.frameBase = 0 := by rw [hmachine]; rfl
  have returned : Returned echoScript call body ret := by
    refine ⟨opens, returns, ?_, ?_⟩ <;> rw [hcalls] <;> assumption
  obtain ⟨r', hr', hposition, hcalls', replaced, restored⟩ :=
    call_returns split returned (by rw [hoffset]; decide +kernel) (by decide +kernel)
  obtain ⟨result, below, -, hdata', hlength, hslots⟩ := replaced hdata (by decide) untaken
    (fun i hi => Option.isNone_iff_eq_none.mp (unstored i hi)) single
  rw [depth] at hr'
  refine ⟨by decide +kernel, r', hr', by rw [hposition, hoffset], by rw [hcalls', hcalls], ?_,
    result, ?_⟩
  · rw [restored paired (by rw [hbase]; decide), hbase]
  · obtain ⟨v, rfl⟩ := List.length_eq_one_iff.mp hlength
    have slot := hslots 0 (by decide)
    rw [Option.isNone_iff_eq_none.mp written] at slot
    cases slot
    exact hdata'

end ScriptMachine
