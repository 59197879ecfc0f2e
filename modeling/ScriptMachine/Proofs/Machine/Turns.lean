import ScriptMachine.Proofs.Machine.Success

/-!
# How instructions end

Of the instructions that succeed one kind halts the run, and one kind hands the context of the
call on to the host. All the others let the run go on and hand on no context.
-/

namespace ScriptMachine

def Turn.request? : Turn → Option Request
  | .ask q => some q.request
  | _ => none

def Request.context? : Request → Option CallContext
  | .callProcedure _ _ context => some context
  | _ => none

namespace Exec

variable {α β : Type}

def Yields (P : α → Prop) (x : Exec α) : Prop := ∀ m a m', x m = .ok a m' → P a

variable {P : β → Prop}

theorem Yields.bind {x : Exec α} {k : α → Exec β} (h : ∀ a, Yields P (k a)) :
    Yields P (x >>= k) := by
  intro m b m' hx
  obtain ⟨a, m₁, -, hk⟩ := bind_eq_ok.mp hx
  exact h a m₁ b m' hk

theorem yields_pure {b : β} (h : P b) : Yields P (pure b) := by
  intro m a m' hx
  obtain ⟨rfl, -⟩ := pure_eq_ok.mp hx
  exact h

structure Ordinary (t : Turn) : Prop where
  going : t ≠ .halt
  alone : t.request?.bind Request.context? = none

theorem yields_next (x : Exec Unit) : Yields Ordinary (next x) :=
  .bind fun _ => yields_pure ⟨nofun, rfl⟩

theorem yields_perform (script : Container) {op : Opcode} (going : op ≠ .exit)
    (alone : op ≠ .callScriptProcedure) : Yields Ordinary (perform script op) := by
  cases op with
  | exit | callScriptProcedure => contradiction
  | noop | dudeObj => exact yields_pure ⟨nofun, rfl⟩
  | random =>
    refine .bind fun last => .bind fun first => yields_pure ?_
    split <;> exact ⟨nofun, rfl⟩
  | call | fetchExternal | exportVar | mapVar | globalVar | objName | objType =>
    exact .bind fun _ => yields_pure ⟨nofun, rfl⟩
  | storeExternal | setMapVar | setGlobalVar | getCritterStat | messageStr | messageSpeech
  | giveExpPoints | playMovie | playSfx | displayMsg =>
    exact .bind fun _ => .bind fun _ => yields_pure ⟨nofun, rfl⟩
  | setCritterStat =>
    exact .bind fun _ => .bind fun _ => .bind fun _ => yields_pure ⟨nofun, rfl⟩
  | _ => exact yields_next _

variable {script : Container} {op : Opcode} {m m' : Machine} {turn : Turn}

/-- Only one opcode hands a context to the host, and that is the context of the call. -/
theorem hands_perform (h : perform script op m = .ok turn m') :
    turn.request?.bind Request.context? =
      if op = .callScriptProcedure then some m.context else none := by
  by_cases handing : op = .callScriptProcedure
  · subst handing
    obtain ⟨procedure, m₁, hprocedure, h⟩ := bind_eq_ok.mp h
    obtain ⟨_, -, rfl⟩ := onData_eq_ok.mp hprocedure
    obtain ⟨index, m₂, hindex, h⟩ := bind_eq_ok.mp h
    obtain ⟨_, -, rfl⟩ := popInteger_eq_ok.mp hindex
    obtain ⟨_, m₃, hget, h⟩ := bind_eq_ok.mp h
    obtain ⟨rfl, rfl⟩ := get_eq_ok.mp hget
    obtain ⟨rfl, -⟩ := pure_eq_ok.mp h
    rfl
  · rw [if_neg handing]
    by_cases exit : op = .exit
    · subst exit
      cases h
      rfl
    · exact (yields_perform script exit handing m turn m' h).alone

theorem exit_of_halt (h : perform script op m = .ok .halt m') : op = .exit := by
  by_contra going
  by_cases handing : op = .callScriptProcedure
  · have hands := hands_perform h
    rw [if_pos handing] at hands
    contradiction
  · exact (yields_perform script going handing m _ m' h).going rfl

end Exec

end ScriptMachine
