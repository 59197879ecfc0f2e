import ScriptMachine.Proofs.Machine.Targets
import ScriptMachine.Proofs.Session.Asking
import ScriptMachine.Proofs.Session.Containment

/-!
# The end of the code

A run that comes to the end of the code is completed, but it can only get there by going
on behind its last instruction. An instruction that goes elsewhere needs an address inside
the code, and the end is none: neither a label bound there nor the return address of a call
that stands last in the file. So whoever transfers control there loses both stacks.
-/

namespace ScriptMachine

variable {σ : Type} {host : Host σ}

namespace Run

variable {r : Run σ} {i : Instruction} {m : Machine} {w : World σ}

theorem tick_of_atEnd (h : r.session.machine.atEnd r.session.script.code = true) (host : Host σ) :
    r.tick host = .ended .completed r.session r.world := by
  simp only [tick, h, ↓reduceIte]

theorem tick_of_target {address : Int64} (hi : r.instruction? = some i)
    (target : i.target? r.session.script = some address)
    (outside : ¬ (0 ≤ address.toInt ∧ address.toInt < r.session.script.size)) (host : Host σ) :
    ∃ s w, r.tick host = .ended (.aborted (.addressOutOfRange address)) s w ∧
      s.machine.data = [.int 0] ∧ s.machine.globalsBase = 0 ∧ s.machine.Unframed := by
  obtain ⟨hend, hspent⟩ := ready hi
  obtain ⟨m, w, hstep⟩ := Machine.step_of_target host (machine_instruction? hi) target outside
    r.world
  have contained := contained_abandon { r.session with machine := m } w (.addressOutOfRange address)
  have last : r.tick host = abandon { r.session with machine := m } w
      (.addressOutOfRange address) := by
    simp only [tick, hend, hspent, Session.step, hstep, Bool.false_eq_true, ↓reduceIte]
  exact ⟨_, _, last, contained⟩

theorem ticks_of_position (hi : r.instruction? = some i)
    (hstep : r.session.machine.step r.session.script host r.world = (.continuing, m, w))
    (hend : m.position = r.session.script.size) :
    (Progress.going r).advance host 2 = .ended .completed { r.session with machine := m } w := by
  obtain ⟨unended, -⟩ := ready hi
  have away : m.position ≠ 0 := by
    intro zero
    have empty : r.session.script.code.size ≤ r.session.machine.position := by
      change r.session.script.size ≤ _
      omega
    rw [Machine.atEnd_iff.mpr empty] at unended
    contradiction
  have onward := tick_of_continuing hi hstep away
  have atEnd : m.atEnd r.session.script.code = true :=
    Machine.atEnd_iff.mpr (Nat.le_of_eq hend.symm)
  change (r.tick host).advance host 1 = _
  rw [onward]
  exact tick_of_atEnd atEnd host

end Run

namespace Progress

def next? : Progress σ → Option Instruction
  | .going r => r.instruction?
  | .ended .. => none

theorem next?_eq_some {p : Progress σ} {i : Instruction} (h : p.next? = some i) :
    ∃ r, p = .going r ∧ r.instruction? = some i := by
  cases p with
  | going r => exact ⟨r, rfl, h⟩
  | ended => contradiction

theorem script_advance (host : Host σ) (p : Progress σ) (n : Nat) :
    (p.advance host n).session.script = p.session.script :=
  congrArg Prod.fst (terms_advance host n p)

variable {p : Progress σ} {n : Nat} {i : Instruction} {m : Machine} {w : World σ}

theorem aborts_of_target {address : Int64} (next : (p.advance host n).next? = some i)
    (target : i.target? p.session.script = some address)
    (outside : ¬ (0 ≤ address.toInt ∧ address.toInt < p.session.script.size)) :
    ∃ s w, p.advance host (n + 1) = .ended (.aborted (.addressOutOfRange address)) s w ∧
      s.machine.data = [.int 0] ∧ s.machine.globalsBase = 0 ∧ s.machine.Unframed := by
  have hscript := script_advance host p n
  obtain ⟨r, hr, hi⟩ := next?_eq_some next
  rw [← hscript, hr] at target outside
  rw [advance_add, hr]
  exact Run.tick_of_target hi target outside host

theorem completes_of_position (next : (p.advance host n).next? = some i)
    (hstep : (p.advance host n).session.machine.step p.session.script host
      (p.advance host n).world = (.continuing, m, w))
    (hend : m.position = p.session.script.size) :
    i.target? p.session.script = none ∧ p.advance host (n + 2) =
      .ended .completed { (p.advance host n).session with machine := m } w := by
  have hscript := script_advance host p n
  obtain ⟨r, hr, hi⟩ := next?_eq_some next
  rw [← hscript, hr] at hstep hend ⊢
  refine ⟨?_, by rw [advance_add, hr]; exact Run.ticks_of_position hi hstep hend⟩
  apply Option.eq_none_iff_forall_ne_some.mpr
  intro address target
  have leads := Machine.step_leads (Run.machine_instruction? hi) hstep nofun
  have inside := (leads.of_target target).2
  exact absurd hend (Nat.ne_of_lt inside)

theorem advance_of_ended {outcome : Outcome} {s : Session}
    (h : p.advance host n = .ended outcome s w) (k : Nat) :
    p.advance host (n + k) = .ended outcome s w := by
  rw [advance_add, h, advance_ended]

end Progress

/-- How a run meets the end of the code. An instruction that would transfer control there
aborts the run, and nothing is left on the stacks. An instruction after which the run stands
there has gone on behind itself, and completes the run with the stacks as it left them. -/
theorem code_end {p : Progress σ} {n : Nat} {i : Instruction}
    (next : (p.advance host n).next? = some i) :
    let script := p.session.script
    let current := p.advance host n
    (∀ address, i.target? script = some address → address.toInt = script.size →
      ∃ s w, (∀ k, p.advance host (n + 1 + k) =
          .ended (.aborted (.addressOutOfRange address)) s w) ∧
        s.machine.data = [.int 0] ∧ s.machine.globalsBase = 0 ∧ s.machine.Unframed) ∧
    ∀ m w, current.session.machine.step script host current.world = (.continuing, m, w) →
      m.position = script.size →
      i.target? script = none ∧ ∀ k, p.advance host (n + 2 + k) =
        .ended .completed { current.session with machine := m } w := by
  intro script current
  constructor
  · intro address target hend
    obtain ⟨s, w, aborted, blank⟩ := Progress.aborts_of_target next target
      fun inside => absurd hend (Int.ne_of_lt inside.2)
    exact ⟨s, w, Progress.advance_of_ended aborted, blank⟩
  · intro m w hstep hend
    obtain ⟨onwards, completed⟩ := Progress.completes_of_position next hstep hend
    exact ⟨onwards, Progress.advance_of_ended completed⟩

def recedingScript : Container where
  name := "recede"
  code :=
    let seven := Block.ofSteps [.int 7, .plain .ret]
    let recede := Block.ofSteps [.int 0, .int 0, .plain .call]
    (Draft.ofSteps [.procedure { name := "seven", body := seven },
      .procedure { name := "recede", body := recede }]).build.toArray
  procedures := #[⟨"seven", ⟨0⟩, 0, 0, 124, 0⟩, ⟨"recede", ⟨0⟩, 0, 0, 132, 0⟩]
  identifiers := [⟨6, "seven"⟩, ⟨14, "recede"⟩]
  strings := []

/-- The return of the call is refused. A run that begins at the last instruction of
`droppingScript` goes on behind it. -/
theorem recede_code_end :
    let receding : Progress Unit :=
      ((Session.new recedingScript none {}).begin (.call "recede" {}) { host := () }).progress
    let dropping : Progress Unit := .going
      { session := { script := droppingScript, machine := { position := 92, data := [.int 5] } }
        world := { host := () }, base := 0 }
    Container.decode "recede" recedingScript.code = .ok recedingScript ∧
    Container.decode "drop" droppingScript.code = .ok droppingScript ∧
    (∃ s w, receding.advance Refusing.host 5 = .ended (.aborted (.addressOutOfRange 146)) s w ∧
      s.machine.data = [.int 0]) ∧
    ∃ s w, dropping.advance Refusing.host 2 = .ended .completed s w ∧ s.machine.data = [] := by
  intro receding dropping
  refine ⟨by decide +kernel, by decide +kernel, ?_, ?_⟩
  · have target : ((receding.advance Refusing.host 4).next?.bind (·.target? recedingScript)) =
        some 146 := by decide +kernel
    obtain ⟨i, next, target⟩ := Option.bind_eq_some_iff.mp target
    obtain ⟨aborted, -⟩ := code_end next
    have hscript : receding.session.script = recedingScript := by decide +kernel
    rw [hscript] at aborted
    obtain ⟨s, w, last, hdata, -⟩ := aborted 146 target (by decide +kernel)
    exact ⟨s, w, last 0, hdata⟩
  · have ready : (dropping.advance Refusing.host 0).next?.isSome = true := by decide +kernel
    obtain ⟨i, next⟩ := Option.isSome_iff_exists.mp ready
    obtain ⟨-, completed⟩ := code_end next
    have continuing : (dropping.session.machine.step droppingScript Refusing.host
        dropping.world).1 = .continuing := by decide +kernel
    have hend : (dropping.session.machine.step droppingScript Refusing.host
        dropping.world).2.1.position = droppingScript.size := by decide +kernel
    have hdata : (dropping.session.machine.step droppingScript Refusing.host
        dropping.world).2.1.data.length = 0 := by decide +kernel
    generalize hstep : dropping.session.machine.step droppingScript Refusing.host dropping.world =
      stepped at continuing hend hdata
    obtain ⟨_, m, w⟩ := stepped
    obtain rfl := continuing
    obtain ⟨-, last⟩ := completed m w hstep hend
    exact ⟨_, _, last 0, List.length_eq_zero_iff.mp hdata⟩

def leapingScript : Container where
  name := "leap"
  code :=
    let body := Block.ofSteps [.newLabel, .address ⟨0⟩, .plain .jump, .bind ⟨0⟩]
    (Draft.ofSteps [.procedure { name := "leap", body }]).build.toArray
  procedures := #[⟨"leap", ⟨0⟩, 0, 0, 90, 0⟩]
  identifiers := [⟨6, "leap"⟩]
  strings := []

theorem leap_not_completed :
    let leaping : Progress Unit :=
      ((Session.new leapingScript none {}).begin (.call "leap" {}) { host := () }).progress
    Container.decode "leap" leapingScript.code = .ok leapingScript ∧
    (∃ i, (leaping.advance Refusing.host 1).next? = some i ∧ i.opcode = .jump ∧
      i.target? leapingScript = some 98) ∧
    (98 : Int64).toInt = leapingScript.size ∧
    ∃ s w, leaping.advance Refusing.host 2 = .ended (.aborted (.addressOutOfRange 98)) s w := by
  intro leaping
  have jump : (leaping.advance Refusing.host 1).next?.map (·.opcode) = some .jump := by
    decide +kernel
  have target : ((leaping.advance Refusing.host 1).next?.bind (·.target? leapingScript)) =
      some 98 := by decide +kernel
  obtain ⟨i, next, target⟩ := Option.bind_eq_some_iff.mp target
  rw [next] at jump
  have hend : (98 : Int64).toInt = leapingScript.size := by decide +kernel
  have hscript : leaping.session.script = leapingScript := by decide +kernel
  obtain ⟨s, w, aborted, -⟩ := Progress.aborts_of_target next (hscript ▸ target)
    fun inside => absurd hend (hscript ▸ Int.ne_of_lt inside.2)
  exact ⟨by decide +kernel, ⟨i, next, Option.some_inj.mp jump, target⟩, hend, s, w, aborted⟩

end ScriptMachine
