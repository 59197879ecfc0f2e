import ScriptMachine.Proofs.Session.Asking

/-!
# Hosts that agree on what is asked

A run depends on its host through the answers to the requests it makes. So hosts that agree on
these cannot be told apart, whatever else they do.
-/

namespace ScriptMachine

variable {σ τ : Type} {allowed : Request → Bool} {host' host : Host σ}

theorem Machine.settle_agrees (agrees : host'.Agrees allowed host) {turn : Turn}
    (only : ∀ q ∈ turn.request?, allowed q = true) (m : Machine) (w : World σ) :
    m.settle host' turn w = m.settle host turn w := by
  cases turn with
  | ask q => simp only [settle, settleQuery, w.ask_agrees agrees (only q.request rfl)]
  | _ => rfl

theorem Machine.step_agrees (agrees : host'.Agrees allowed host) {script : Container} {m : Machine}
    (only : ∀ i ∈ m.instruction? script, ∀ q ∈ i.request? script, allowed q = true)
    (w : World σ) : m.step script host' w = m.step script host w := by
  rw [step, step]
  cases hfetch : Reader.uint16 (m.reader script.code) with
  | error e r => rfl
  | ok code r =>
    change (m.fetched code r.position).execute script host' code _ =
      (m.fetched code r.position).execute script host code _
    cases hop : Opcode.ofCode? code with
    | none => rw [execute_of_none _ _ _ hop, execute_of_none _ _ _ hop]
    | some op =>
      have asked := only ⟨op, m.fetched code r.position⟩
        (instruction?_eq_some.mpr ⟨code, r, hfetch, hop, rfl⟩)
      rw [execute_of_some _ _ _ hop, execute_of_some _ _ _ hop]
      cases hperform : Exec.perform script op (m.fetched code r.position) with
      | error fault m₁ => rfl
      | ok turn m₁ =>
        rw [Instruction.request?_of_ok hperform] at asked
        exact settle_agrees agrees asked m₁ _

theorem Run.tick_agrees (agrees : host'.Agrees allowed host) {r : Run σ}
    (only : ∀ i ∈ r.instruction?, ∀ q ∈ i.request? r.session.script, allowed q = true) :
    r.tick host' = r.tick host := by
  rw [instruction?] at only
  simp only [tick, Session.step]
  cases hend : r.session.machine.atEnd r.session.script.code with
  | true => rfl
  | false =>
    cases hspent : r.spent with
    | some limit => rfl
    | none =>
      rw [hend, hspent] at only
      rw [Machine.step_agrees agrees only]

theorem Progress.advance_agrees (agrees : host'.Agrees allowed host) {p : Progress σ} {n : Nat}
    (only : ∀ i ∈ p.trace host n, ∀ q ∈ i.request? p.session.script, allowed q = true) :
    p.advance host' n = p.advance host n ∧ p.trace host' n = p.trace host n := by
  induction n generalizing p with
  | zero => exact ⟨rfl, rfl⟩
  | succ n ih =>
    cases p with
    | ended outcome s w => exact ⟨rfl, rfl⟩
    | going r =>
      rw [trace, List.forall_mem_append] at only
      obtain ⟨first, rest⟩ := only
      have tick := Run.tick_agrees agrees fun i hi => first i (Option.mem_toList.mpr hi)
      obtain ⟨advance, trace⟩ := ih (p := r.tick host) (by rwa [r.script_tick host])
      rw [Progress.advance, Progress.advance, Progress.trace, Progress.trace, tick, trace]
      exact ⟨advance, rfl⟩

namespace Session

theorem attempt_agrees (agrees : host'.Agrees allowed host) {fuel : Nat} {command : Command}
    {s : Session} {w : World σ}
    (only : ∀ q ∈ s.requests fuel [(host, command)] w, allowed q = true) :
    s.attempt host' fuel command w = s.attempt host fuel command w ∧
      s.requests fuel [(host', command)] w = s.requests fuel [(host, command)] w := by
  rw [requests_eq, performed_eq] at only
  obtain ⟨advance, trace⟩ := Progress.advance_agrees agrees
    (p := (s.begin command w).progress) (n := fuel) fun i hi q hq =>
      only q (List.mem_filterMap.mpr ⟨i, hi, by rwa [(begin_cases command s w).left] at hq⟩)
  rw [requests_eq, requests_eq, performed_eq, performed_eq, trace, attempt, attempt]
  refine ⟨?_, rfl⟩
  cases hbegin : s.begin command w with
  | declined outcome s₁ w₁ => rfl
  | started p =>
    rw [hbegin] at advance
    simp only [show p.advance host' fuel = p.advance host fuel from advance]

theorem Alike.symm {s s' : Session} (h : s.Alike s') : s'.Alike s := by
  obtain ⟨position, opcode, opcodeOffset, hmachine⟩ := h.machine
  refine ⟨h.script.symm, h.maxTicks.symm, s.machine.position, s.machine.opcode,
    s.machine.opcodeOffset, ?_⟩
  rw [hmachine]

/-! The requests of a sequence of commands are those of each in turn. -/

section

variable {fuel : Nat} {command : Command} {s s₁ : Session} {w w₁ : World σ}

theorem attempt_recorded (host : Host σ) (fuel : Nat) (command : Command) (s : Session)
    (w : World σ) :
    Progress.Mirrors Prod.fst (s.attempt host.recorded fuel command w.recording)
      (s.attempt host fuel command w) :=
  attempt_mirrors host.mimics_recorded s.alike_refl w.mirrors_recording fuel command

theorem requests_of_going {r : Run σ} (h : s.attempt host fuel command w = .going r)
    (rest : List (Host σ × Command)) :
    s.requests fuel ((host, command) :: rest) w = s.requests fuel [(host, command)] w := by
  have recording := s.attempt_recorded host fuel command w
  rw [h] at recording
  simp only [requests, recorded, List.map_cons, List.map_nil, carryOut]
  generalize s.attempt host.recorded fuel command w.recording = q at recording ⊢
  cases recording
  rfl

theorem requests_of_ended {outcome : Outcome}
    (h : s.attempt host fuel command w = .ended outcome s₁ w₁)
    (rest : List (Host σ × Command)) :
    s.requests fuel ((host, command) :: rest) w =
      s.requests fuel [(host, command)] w ++ s₁.requests fuel rest w₁ := by
  have recording := s.attempt_recorded host fuel command w
  rw [h] at recording
  simp only [requests, recorded, List.map_cons, List.map_nil, carryOut]
  generalize s.attempt host.recorded fuel command w.recording = q at recording ⊢
  cases recording with
  | @ended s' _ w' _ _ alike hworld =>
    -- A host that writes on behind what is written already is told apart by nothing else.
    have further (c : Host (σ × List Request) × Command) (hc : c ∈ recorded rest) :
        c.1.Mimics (fun x => (x.1, w'.host.2 ++ x.2)) c.1 := by
      obtain ⟨d, -, rfl⟩ := List.mem_map.mp hc
      exact ⟨fun _ _ => rfl, fun r x => by simp [Host.recorded]⟩
    have start : w₁.recording.Mirrors (fun x => (x.1, w'.host.2 ++ x.2)) w' := by
      refine ⟨?_, hworld.dice.symm⟩
      simp [World.recording, ← hworld.host]
    have run := carryOut_mirrors
      (List.forall₂_same.mpr fun c hc => ⟨further c hc, rfl⟩) alike.symm start fuel
    exact (congrArg Prod.snd run.world.host).symm

end

theorem carryOut_agrees (agrees : host'.Agrees allowed host) {fuel : Nat}
    {commands : List Command} {s : Session} {w : World σ}
    (only : ∀ q ∈ s.requests fuel (commands.map (host, ·)) w, allowed q = true) :
    s.carryOut fuel (commands.map (host', ·)) w = s.carryOut fuel (commands.map (host, ·)) w ∧
      s.requests fuel (commands.map (host', ·)) w =
        s.requests fuel (commands.map (host, ·)) w := by
  induction commands generalizing s w with
  | nil => exact ⟨rfl, rfl⟩
  | cons command rest ih =>
    rw [List.map_cons] at only
    simp only [List.map_cons]
    cases h : s.attempt host fuel command w with
    | going r =>
      rw [requests_of_going h] at only
      obtain ⟨attempt, requests⟩ := attempt_agrees agrees only
      rw [carryOut, carryOut, attempt, requests_of_going h, requests_of_going (attempt.trans h), h]
      exact ⟨rfl, requests⟩
    | ended outcome s₁ w₁ =>
      rw [requests_of_ended h, List.forall_mem_append] at only
      obtain ⟨attempt, requests⟩ := attempt_agrees agrees only.left
      obtain ⟨carried, further⟩ := ih only.right
      rw [carryOut, carryOut, attempt, requests_of_ended h, requests_of_ended (attempt.trans h),
        requests, further, h]
      simp only [carried, and_self]

theorem forall₂_mimics {view : τ → σ} {host' : Host τ} (mimics : host'.Mimics view host)
    (commands : List Command) :
    List.Forall₂ (fun c' c => c'.1.Mimics view c.1 ∧ c'.2 = c.2) (commands.map (host', ·))
      (commands.map (host, ·)) := by
  rw [List.forall₂_map_left_iff, List.forall₂_map_right_iff, List.forall₂_same]
  exact fun _ _ => ⟨mimics, rfl⟩

theorem requests_mirrors {view : τ → σ} {host' : Host τ} (mimics : host'.Mimics view host)
    {w' : World τ} {w : World σ} (h : w'.Mirrors view w) (fuel : Nat) (commands : List Command)
    (s : Session) :
    s.requests fuel (commands.map (host', ·)) w' = s.requests fuel (commands.map (host, ·)) w := by
  have recording : host'.recorded.Mimics (Prod.map view id) host.recorded :=
    ⟨fun r x => mimics.reply r x.1, fun r x => by simp [Host.recorded, mimics.state]⟩
  have start : w'.recording.Mirrors (Prod.map view id) w.recording :=
    ⟨congrArg (·, []) h.host, h.dice⟩
  have run := carryOut_mirrors (forall₂_mimics recording commands) s.alike_refl start fuel
  simp only [requests, recorded, List.map_map]
  exact congrArg Prod.snd run.world.host

end Session

end ScriptMachine
