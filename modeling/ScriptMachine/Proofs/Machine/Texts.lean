import ScriptMachine.Proofs.Container.RoundTrip
import ScriptMachine.Proofs.Session.Asking

/-!
# Texts of a script

An instruction that pushes a text has an offset for it, and the instruction behind it says in
which of the two tables. Both tables count their offsets from the same number on, so that the
same instruction pushes either of two texts. The text that was entered is the one that is
pushed, and the one that the host is asked with.
-/

namespace ScriptMachine

variable {σ : Type}

/-! Pushing a text. -/

namespace Exec

variable {script : Container} {m : Machine} {op : Opcode}

theorem beforeVariableName_of_standsAt
    (h : StandsAt script.code.toList m.position (bigEndian 2 op.code.toNat)) :
    beforeVariableName m script.code = op.namesVariable := by
  rw [beforeVariableName, Reader.peek, Machine.reader, h.uint16]
  simp only [Opcode.ofCode?_code, Option.any_some]

theorem beforeVariableName_eq_false
    (h : ∀ op : Opcode, op.namesVariable = true →
      ¬ StandsAt script.code.toList m.position (bigEndian 2 op.code.toNat)) :
    beforeVariableName m script.code = false := by
  rw [beforeVariableName, Reader.peek, Machine.reader]
  cases read : Reader.uint16 ⟨script.code, m.position⟩ with
  | error e r => rfl
  | ok n r =>
    have stands := StandsAt.of_uint16 read
    simp only
    cases hop : Opcode.ofCode? n with
    | none => rfl
    | some op =>
      rw [← Opcode.code_of_ofCode? hop] at stands
      rw [Option.any_some]
      exact Bool.eq_false_iff.mpr fun names => h op names stands

end Exec

namespace Machine

variable {script : Container} {m : Machine}

theorem instruction?_of_standsAt {op : Opcode}
    (h : StandsAt script.code.toList m.position (bigEndian 2 op.code.toNat)) :
    m.instruction? script = some ⟨op, m.fetched op.code (m.position + 2)⟩ := by
  rw [instruction?, reader, h.uint16]
  simp only [Opcode.ofCode?_code, Option.map_some]

def pushed (m : Machine) (text : String) : Machine :=
  { m.fetched Opcode.pushString.code (m.position + 6) with data := .text text :: m.data }

theorem perform_pushString {k : UInt32} {text : String}
    (h : StandsAt script.code.toList m.position (CodeItem.literal .pushString k))
    (found : (if Exec.beforeVariableName { m with position := m.position + 6 } script.code then
      script.identifier? k else script.string? k) = some text) :
    Exec.perform script .pushString (m.fetched Opcode.pushString.code (m.position + 2)) =
      .ok .next (m.pushed text) := by
  have read := (StandsAt.right h).uint32
  rw [length_bigEndian] at read
  have fetched := @Exec.operand_eq_ok _ (m.fetched Opcode.pushString.code (m.position + 2)) _
    script.code Reader.uint32 k |>.mpr ⟨_, read, rfl⟩
  refine Exec.next_eq_ok.mpr ⟨rfl, ?_⟩
  refine bind_eq_ok.mpr ⟨_, _, fetched, bind_eq_ok.mpr ⟨_, _, get_eq_ok.mpr ⟨rfl, rfl⟩, ?_⟩⟩
  have lookup : Exec.beforeVariableName { m.fetched Opcode.pushString.code (m.position + 2) with
      position := m.position + 2 + 4 } script.code =
      Exec.beforeVariableName { m with position := m.position + 6 } script.code := rfl
  rw [← lookup] at found
  simp only [found]
  rfl

theorem step_pushString {k : UInt32} {text : String} (host : Host σ) (w : World σ)
    (h : StandsAt script.code.toList m.position (CodeItem.literal .pushString k))
    (found : (if Exec.beforeVariableName { m with position := m.position + 6 } script.code then
      script.identifier? k else script.string? k) = some text) :
    ∃ e, m.step script host w = (.continuing, m.pushed text, w.note e) := by
  obtain ⟨e, hstep⟩ := step_of_some host w (instruction?_of_standsAt h.left)
  rw [perform_pushString h found] at hstep
  exact ⟨e, hstep⟩

end Machine

/-- What the instructions that take a name ask for, with the values beneath it. -/
def Opcode.asks? (name : String) : Opcode → Stack → Option Request
  | .fetchExternal, _ => some (.fetchExternal name)
  | .storeExternal, v :: _ => some (.storeExternal name v)
  | .exportVar, _ => some (.exportVar name)
  | _, _ => none

theorem Opcode.request?_of_asks? {script : Container} {op : Opcode} {m : Machine} {name : String}
    {beneath : Stack} {request : Request} (hdata : m.data = .text name :: beneath)
    (h : op.asks? name beneath = some request) :
    (Instruction.mk op m).request? script = some request := by
  obtain ⟨position, opcode, opcodeOffset, data⟩ := m
  obtain rfl : data = .text name :: beneath := hdata
  cases op with
  | fetchExternal | exportVar =>
    cases h
    rfl
  | storeExternal =>
    cases beneath with
    | nil => contradiction
    | cons v rest =>
      cases h
      rfl
  | _ => cases beneath <;> contradiction

theorem Machine.requests_pushed {script : Container} {m : Machine} {op : Opcode} {text : String}
    {request : Request} (host : Host σ) (w : World σ)
    (h : StandsAt script.code.toList (m.position + 6) (bigEndian 2 op.code.toNat))
    (asks : op.asks? text m.data = some request) :
    ((m.pushed text).step script host.recorded w.recording).2.2.host.2 = [request] := by
  have fetched : (m.pushed text).instruction? script = some ⟨op, _⟩ :=
    (m.pushed text).instruction?_of_standsAt h
  rw [requests_step, fetched]
  change (Instruction.request? script _).toList = [request]
  exact congrArg Option.toList (Opcode.request?_of_asks? rfl asks)

/-! From entering a text to the host. -/

def Block.Placed (file : List UInt8) (b : Block) (base : UInt32) : Prop :=
  ∀ before item after, b.items.toList = before ++ item :: after →
    StandsAt file (base.toNat + CodeItem.totalSize before) (item.encode (b.address base))

structure Carries (file : List UInt8) (p : ProcedureDraft) (q : Procedure) : Prop where
  body : p.body.Placed file q.body
  condition : ∀ block ∈ p.condition, block.Placed file q.condition

theorem Draft.Matches.carries {file : List UInt8} {p : ProcedureDraft} {q : Procedure}
    (h : Matches file p q) : Carries file p q where
  body _ _ _ hitems := Block.standsAt_item h.body hitems
  condition block hblock _ _ _ hitems := by
    have stands := h.condition
    rw [hblock] at stands
    exact Block.standsAt_item stands hitems

/-- Texts reach the host intact. What the blocks of a draft emit stands in its file, and an
instruction there with the offset of a string pushes just that string, unless the next one takes
a name. With the offset of an identifier before such an instruction, the host is asked with just
that identifier. -/
theorem texts_intact {name : String} {steps : List DraftStep} {c : Container}
    (plain : ∀ s ∈ steps, s.Plain) (small : (Draft.ofSteps steps).build.length < 2147483648)
    (loads : Container.decode name (Draft.ofSteps steps).build.toArray = .ok c) :
    List.Forall₂ (Carries c.code.toList) (steps.filterMap DraftStep.procedure?)
      c.procedures.toList ∧
    ∀ (text : String) (k : Nat) (m : Machine), Draft.PlainText text →
      StandsAt c.code.toList m.position (CodeItem.literal .pushString (.ofNat k)) →
      (.withoutStrings ∉ steps → Draft.Issued steps .string text k →
        (∀ op : Opcode, op.namesVariable = true →
          ¬ StandsAt c.code.toList (m.position + 6) (bigEndian 2 op.code.toNat)) →
        ∀ {σ : Type} (host : Host σ) (w : World σ),
          ∃ e, m.step c host w = (.continuing, m.pushed text, w.note e)) ∧
      (Draft.Issued steps .identifier text k → ∀ op : Opcode, op.namesVariable = true →
        StandsAt c.code.toList (m.position + 6) (bigEndian 2 op.code.toNat) →
        ∀ {σ : Type} (host : Host σ) (w : World σ),
          ∃ e, m.step c host w = (.continuing, m.pushed text, w.note e) ∧
            ∀ request, op.asks? text m.data = some request →
              ((m.pushed text).step c host.recorded (w.note e).recording).2.2.host.2 =
                [request]) := by
  have kept := Draft.kept_of_decode plain small loads
  have hcode := Container.code_of_decode loads
  refine ⟨?_, fun text k m ascii stands => ⟨?_, ?_⟩⟩
  · rw [hcode]
    exact kept.procedures.imp fun _ _ matched => matched.carries
  · intro written issued follows σ host w
    have found := ((kept.strings written).exact text k issued).mpr ascii
    have next : Exec.beforeVariableName { m with position := m.position + 6 } c.code = false :=
      Exec.beforeVariableName_eq_false follows
    exact m.step_pushString host w stands (by rwa [next])
  · intro issued op names follows σ host w
    have found := (kept.identifiers.exact text k issued).mpr ascii
    have next : Exec.beforeVariableName { m with position := m.position + 6 } c.code = true :=
      (Exec.beforeVariableName_of_standsAt follows).trans names
    obtain ⟨e, hstep⟩ := m.step_pushString host w stands (by rwa [next])
    exact ⟨e, hstep, fun request asks => Machine.requests_pushed host (w.note e) follows asks⟩

instance (text : String) : Decidable (Draft.PlainText text) :=
  List.decidableBAll _ text.toList

def greetingBlock : Block :=
  ((({} : Block).emit (.text 6)).emit (.text 6)).op .exportVar

def greetingSteps : List DraftStep :=
  [.string "hello", .procedure { name := "counter", body := greetingBlock }]

theorem greeting_texts_intact :
    ∃ c, Container.decode "greeting" (Draft.ofSteps greetingSteps).build.toArray = .ok c ∧
    let first : Machine := { position := 100 }
    let second : Machine := { position := 106 }
    ∀ {σ : Type} (host : Host σ) (w : World σ),
      (∃ e, first.step c host w = (.continuing, first.pushed "hello", w.note e)) ∧
      ∃ e, second.step c host w = (.continuing, second.pushed "counter", w.note e) ∧
        ((second.pushed "counter").step c host.recorded (w.note e).recording).2.2.host.2 =
          [.exportVar "counter"] := by
  have plain : ∀ s ∈ greetingSteps, s.Plain := by
    simp only [greetingSteps, List.forall_mem_cons, DraftStep.Plain, Pool.longest]
    exact ⟨by decide, by decide, by simp⟩
  have small : (Draft.ofSteps greetingSteps).build.length < 2147483648 := by decide +kernel
  have loads : ∃ c, Container.decode "greeting" (Draft.ofSteps greetingSteps).build.toArray =
      .ok c := by
    rcases Draft.decode_tidy "greeting" (Draft.tidy_ofSteps plain) (by decide +kernel) with
      ⟨c, hc, -⟩ | ⟨p, hp, empty, -⟩
    · exact ⟨c, hc⟩
    · obtain rfl := List.mem_singleton.mp hp
      exact absurd ⟨by decide, fun block hblock => by cases hblock⟩ empty
  obtain ⟨c, hc⟩ := loads
  have hcode := Container.code_of_decode hc
  have stands : StandsAt c.code.toList 100
      (CodeItem.literal .pushString 6 ++
        (CodeItem.literal .pushString 6 ++ bigEndian 2 Opcode.exportVar.code.toNat)) := by
    rw [hcode]
    exact ⟨(Draft.ofSteps greetingSteps).build.take 100, [], by decide +kernel, by decide +kernel⟩
  have follows (op : Opcode) (names : op.namesVariable = true) :
      ¬ StandsAt c.code.toList 106 (bigEndian 2 op.code.toNat) := by
    intro other
    have same := stands.right.left.left.uint16.symm.trans other.uint16
    obtain ⟨hcode, -⟩ := EStateM.Result.ok.inj same
    cases op <;> contradiction
  obtain ⟨-, intact⟩ := texts_intact plain small hc
  refine ⟨c, hc, ?_⟩
  intro first second σ host w
  obtain ⟨strings, -⟩ := intact "hello" 6 first (by decide) stands.left
  obtain ⟨-, identifiers⟩ := intact "counter" 6 second (by decide) stands.right.left
  refine ⟨strings (by simp [greetingSteps]) ⟨[], _, _, rfl, .string "hello"⟩ follows host w, ?_⟩
  obtain ⟨e, hstep, asked⟩ := identifiers ⟨[.string "hello"], _, _, rfl, .procedure _⟩ .exportVar
    rfl stands.right.right host w
  exact ⟨e, hstep, asked _ rfl⟩

end ScriptMachine
