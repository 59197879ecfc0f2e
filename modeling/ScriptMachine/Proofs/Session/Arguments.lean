import ScriptMachine.Proofs.Session.Returning

/-!
# Frames of arguments

A frame is opened on arguments with their count above them. From then on the arguments and the
count are slots of the frame, whatever is pushed above, and a global variable can be the same slot
as an argument. Popping to the base leaves what was below the arguments.
-/

namespace ScriptMachine

def Machine.under (m : Machine) (above : Stack) : Machine := { m with data := above ++ m.data }

theorem Stack.slot_beyond {s : Stack} {index : Nat} (beyond : s.length ≤ index) :
    slot index s = .error (.slotOutOfRange (.ofNat index)) s := by
  have absent : s.bottomUp[index]? = none := by
    rwa [List.getElem?_eq_none_iff, bottomUp, List.length_reverse]
  rw [slot, bind_of_ok (get_eq_ok.mpr ⟨rfl, rfl⟩), absent]
  rfl

theorem Stack.setSlot_beyond {s : Stack} {index : Nat} (beyond : s.length ≤ index) (v : Value) :
    setSlot index v s = .error (.slotOutOfRange (.ofNat index)) s := by
  rw [setSlot, bind_of_ok (get_eq_ok.mpr ⟨rfl, rfl⟩), if_neg (Nat.not_lt.mpr beyond)]
  rfl

namespace Exec

variable {m : Machine} {base : Machine → Nat} {i : Int64} {v : Value}

/-! Slots counted from a base register. -/

theorem fetchSlot_of_slot (nonneg : 0 ≤ i.toInt) (fits : m.data.length < UInt64.size)
    (hslot : m.data.bottomUp[base m + i.toInt.toNat]? = some v) :
    fetchSlot base (m.under [.int i]) = .ok () (m.under [v]) := by
  have inside := Nat.lt_trans (Stack.lt_length_of_getElem? hslot) fits
  refine bind_eq_ok.mpr ⟨i, m, popInteger_eq_ok.mpr ⟨m.data, rfl, rfl⟩, ?_⟩
  refine bind_eq_ok.mpr ⟨m, m, get_eq_ok.mpr ⟨rfl, rfl⟩, ?_⟩
  refine bind_eq_ok.mpr ⟨_, m, slotAt_eq_ok.mpr ⟨⟨nonneg, inside⟩, rfl, rfl⟩, ?_⟩
  refine bind_eq_ok.mpr ⟨v, m, onData_eq_ok.mpr ⟨_, Stack.slot_eq_ok.mpr ⟨hslot, rfl⟩, rfl⟩, ?_⟩
  exact push_eq_ok.mpr rfl

theorem storeSlot_of_slot (nonneg : 0 ≤ i.toInt) (fits : m.data.length < UInt64.size)
    (inside : base m + i.toInt.toNat < m.data.length) :
    storeSlot base (m.under [.int i, v]) = .ok ()
      { m with data := (m.data.bottomUp.set (base m + i.toInt.toNat) v).reverse } :=
  storeSlot_eq_ok.mpr ⟨i, v, m.data, rfl, ⟨nonneg, Nat.lt_trans inside fits, inside⟩, rfl⟩

theorem slotAt_outside {α : Type} {f : Nat → Stack.Work α} {start : Nat}
    (outside : i.toInt < 0 ∨ m.data.length ≤ start + i.toInt.toNat)
    (beyond : ∀ index, m.data.length ≤ index →
      f index m.data = .error (.slotOutOfRange (.ofNat index)) m.data) :
    ∃ index m', (slotAt start i >>= fun index => onData (f index)) m =
      .error (.slotOutOfRange index) m' := by
  by_cases addressed : 0 ≤ i.toInt ∧ start + i.toInt.toNat < UInt64.size
  · have far : m.data.length ≤ start + i.toInt.toNat :=
      outside.resolve_left (Int.not_lt.mpr addressed.1)
    refine ⟨.ofNat (start + i.toInt.toNat), m, ?_⟩
    rw [bind_of_ok (slotAt_eq_ok.mpr ⟨addressed, rfl, rfl⟩)]
    rw [onData, beyond _ far]
  · exact ⟨i, m, bind_of_error (by rw [slotAt, if_neg addressed]; rfl)⟩

theorem fetchSlot_outside (outside : i.toInt < 0 ∨ m.data.length ≤ base m + i.toInt.toNat) :
    ∃ index m', fetchSlot base (m.under [.int i]) = .error (.slotOutOfRange index) m' := by
  have popped : popInteger (m.under [.int i]) = .ok i m := popInteger_eq_ok.mpr ⟨m.data, rfl, rfl⟩
  obtain ⟨index, m', missing⟩ := slotAt_outside outside fun _ => Stack.slot_beyond
  refine ⟨index, m', ?_⟩
  rw [fetchSlot, bind_of_ok popped, bind_of_ok (get_eq_ok.mpr ⟨rfl, rfl⟩), ← bind_assoc]
  exact bind_of_error missing

theorem storeSlot_outside (outside : i.toInt < 0 ∨ m.data.length ≤ base m + i.toInt.toNat) :
    ∃ index m', storeSlot base (m.under [.int i, v]) = .error (.slotOutOfRange index) m' := by
  have popped : popInteger (m.under [.int i, v]) = .ok i (m.under [v]) :=
    popInteger_eq_ok.mpr ⟨v :: m.data, rfl, rfl⟩
  have value : pop (m.under [v]) = .ok v m := pop_eq_ok.mpr ⟨m.data, rfl, rfl⟩
  rw [storeSlot, bind_of_ok popped, bind_of_ok value, bind_of_ok (get_eq_ok.mpr ⟨rfl, rfl⟩)]
  exact slotAt_outside outside fun _ far => Stack.setSlot_beyond far v

end Exec

def Machine.storing (m : Machine) (slot : Nat) (v : Value) : Machine :=
  { m with data := (m.data.bottomUp.set slot v).reverse }

structure Machine.ArgumentFrame (m : Machine) (below arguments : List Value) (count : Int64)
    (above : List Value) : Prop where
  base : m.frameBase = below.length
  data : m.data.bottomUp = below ++ (arguments ++ .int count :: above)
  count : count.toInt = arguments.length

namespace Machine

open Exec

variable {m : Machine} {below arguments above : List Value} {n : Int64} {script : Container}

theorem pushBase_of_arguments (hdata : m.data.bottomUp = below ++ (arguments ++ [.int n]))
    (hn : n.toInt = arguments.length) : m.Executes script .pushBase .continuing
      { m with calls := .ofNat m.frameBase :: m.calls, frameBase := below.length } := by
  have htop : m.data = .int n :: (below ++ arguments).reverse := by
    have := congrArg List.reverse hdata
    simpa [Stack.bottomUp] using this
  have hlength : m.data.length = below.length + (arguments.length + 1) := by
    simp only [htop, List.length_cons, List.length_reverse, List.length_append]
    omega
  have hcount : n.toInt.toNat = arguments.length := by rw [hn, Int.toNat_natCast]
  have top : onData Stack.top m = .ok (.int n) m :=
    onData_eq_ok.mpr ⟨m.data, Stack.top_eq_ok.mpr ⟨rfl, by rw [htop, List.head?_cons]⟩, rfl⟩
  refine executes_of_ok (x := pushBase) ?_ rfl
  rw [pushBase, bind_of_ok top, bind_of_ok (get_eq_ok.mpr ⟨rfl, rfl⟩)]
  refine guard_eq_ok.mpr ⟨by omega, guard_eq_ok.mpr ⟨by omega, ?_⟩⟩
  have hbase : m.data.length - (n.toInt.toNat + 1) = below.length := by omega
  rw [hbase]
  rfl

theorem popBase_of_saved {base : Nat} {calls : Stack} (hcalls : m.calls = .ofNat base :: calls)
    (small : base ≤ Int64.maxValue.toInt) :
    m.Executes script .popBase .continuing { m with calls, frameBase := base } := by
  have largest : Int64.maxValue.toInt = 9223372036854775807 := rfl
  have hbase : (Int64.ofNat base).toInt = base := Int64.toInt_ofNat_of_lt (by omega)
  have popped : onCalls Stack.popInteger m = .ok (.ofNat base) { m with calls } :=
    onCalls_eq_ok.mpr ⟨calls, Stack.popInteger_eq_ok.mpr hcalls, rfl⟩
  refine executes_of_ok (x := popBase) ?_ rfl
  rw [popBase, bind_of_ok popped]
  refine guard_eq_ok.mpr ⟨by omega, ?_⟩
  rw [hbase, Int.toNat_natCast]
  rfl

/-- A base is a length of the data stack or has been read as an address. -/
theorem frameBase_step {σ : Type} {host : Host σ} {m' : Machine} {w w' : World σ}
    {outcome : StepOutcome} (h : m.step script host w = (outcome, m', w'))
    (succeeds : ∀ fault, outcome ≠ .failed fault) (fits : m.data.length ≤ Int64.maxValue.toInt)
    (small : m.frameBase ≤ Int64.maxValue.toInt) : m'.frameBase ≤ Int64.maxValue.toInt := by
  obtain ⟨i, m₁, hi, framed, data, position, rfl⟩ := step_framed h succeeds
  rw [← data_of_instruction? hi] at fits
  rw [← frameBase_of_instruction? hi] at small
  obtain ⟨op, fetched⟩ := i
  cases framed with
  | pushBase n rest =>
    exact Int.le_trans (Int.ofNat_le.mpr (Nat.sub_le _ _)) fits
  | popBase base calls _ nonneg =>
    have largest : Int64.maxValue.toInt = 9223372036854775807 := rfl
    have bound := base.toInt_lt
    change (base.toInt.toNat : Int) ≤ _
    omega
  | _ => exact small

namespace ArgumentFrame

variable {i : Int64} {v : Value}

theorem under (frame : m.ArgumentFrame below arguments n above) (more : Stack) :
    (m.under more).ArgumentFrame below arguments n (above ++ more.bottomUp) where
  base := frame.base
  data := by
    rw [Machine.under, Stack.bottomUp_append, frame.data]
    simp
  count := frame.count

theorem slot (frame : m.ArgumentFrame below arguments n above) (i : Nat) :
    m.data.bottomUp[below.length + i]? = (arguments ++ .int n :: above)[i]? := by
  rw [frame.data, List.getElem?_append_right (Nat.le_add_right _ _), Nat.add_sub_cancel_left]

theorem fetch (frame : m.ArgumentFrame below arguments n above) (fits : m.data.length < UInt64.size)
    (nonneg : 0 ≤ i.toInt) (hv : (arguments ++ .int n :: above)[i.toInt.toNat]? = some v) :
    (m.under [.int i]).Executes script .fetch .continuing (m.under [v]) := by
  refine executes_of_ok (fetchSlot_of_slot nonneg fits ?_) rfl
  rw [frame.base, frame.slot, hv]

theorem fetch_argument (frame : m.ArgumentFrame below arguments n above)
    (fits : m.data.length < UInt64.size) (nonneg : 0 ≤ i.toInt)
    (hv : arguments[i.toInt.toNat]? = some v) :
    (m.under [.int i]).Executes script .fetch .continuing (m.under [v]) := by
  refine frame.fetch fits nonneg ?_
  rw [List.getElem?_append_left (List.getElem?_eq_some_iff.mp hv).1, hv]

theorem fetch_count (frame : m.ArgumentFrame below arguments n above)
    (fits : m.data.length < UInt64.size) :
    (m.under [.int n]).Executes script .fetch .continuing (m.under [.int n]) := by
  have hcount : n.toInt.toNat = arguments.length := by rw [frame.count, Int.toNat_natCast]
  refine frame.fetch fits (by rw [frame.count]; exact Int.natCast_nonneg _) ?_
  rw [hcount, List.getElem?_append_right (Nat.le_refl _), Nat.sub_self, List.getElem?_cons_zero]

theorem store (frame : m.ArgumentFrame below arguments n above) (fits : m.data.length < UInt64.size)
    (nonneg : 0 ≤ i.toInt) (inside : i.toInt < n.toInt) :
    (m.under [.int i, v]).Executes script .store .continuing
      (m.storing (below.length + i.toInt.toNat) v) := by
  have hcount := frame.count
  have hlength : m.data.length = below.length + (arguments.length + (above.length + 1)) := by
    rw [← List.length_reverse, ← Stack.bottomUp, frame.data, List.length_append, List.length_append,
      List.length_cons]
  have hslot : m.frameBase + i.toInt.toNat < m.data.length := by
    rw [frame.base]
    omega
  rw [← frame.base]
  exact executes_of_ok (storeSlot_of_slot nonneg fits hslot) rfl

theorem stored (frame : m.ArgumentFrame below arguments n above) {k : Nat}
    (inside : k < arguments.length) (v : Value) :
    (m.storing (below.length + k) v).ArgumentFrame below (arguments.set k v) n above where
  base := frame.base
  data := by
    rw [storing, Stack.bottomUp, List.reverse_reverse, frame.data,
      List.set_append_right _ _ (Nat.le_add_right _ _), Nat.add_sub_cancel_left,
      List.set_append_left _ _ inside]
  count := by rw [List.length_set, frame.count]

theorem popToBase (frame : m.ArgumentFrame below arguments n above) :
    m.Executes script .popToBase .continuing { m with data := below.reverse } := by
  have kept : (m.data.truncate m.frameBase).bottomUp = below := by
    rw [Stack.bottomUp_truncate, frame.data, frame.base, List.take_left]
  rw [← kept, Stack.bottomUp, List.reverse_reverse]
  exact executes_of_ok (modify_eq_ok.mpr rfl) rfl

end ArgumentFrame

/-- A global variable reads what was stored to a slot if that is its own, and else what it read
before. -/
theorem fetchGlobal_storing {g : Int64} {slot : Nat} (v : Value)
    (fits : m.data.length < UInt64.size) (nonneg : 0 ≤ g.toInt)
    (inside : m.globalsBase + g.toInt.toNat < m.data.length) :
    ∃ w, (m.under [.int g]).Executes script .fetchGlobal .continuing (m.under [w]) ∧
      ((m.storing slot v).under [.int g]).Executes script .fetchGlobal .continuing
        ((m.storing slot v).under [if m.globalsBase + g.toInt.toNat = slot then v else w]) := by
  have depth : m.globalsBase + g.toInt.toNat < m.data.bottomUp.length := by
    rwa [Stack.bottomUp, List.length_reverse]
  have hslot := List.getElem?_eq_getElem depth
  have stored : (m.storing slot v).data.length = m.data.length := by
    simp [storing, Stack.bottomUp]
  refine ⟨_, executes_of_ok (fetchSlot_of_slot nonneg fits hslot) rfl,
    executes_of_ok (fetchSlot_of_slot nonneg (by rwa [stored]) ?_) rfl⟩
  change (List.reverse (List.reverse _))[m.globalsBase + g.toInt.toNat]? = _
  rw [List.reverse_reverse]
  split
  · rename_i same
    rw [← same, List.getElem?_set_self depth]
  · rename_i other
    rw [List.getElem?_set_ne (Ne.symm other), hslot]

def Misses (script : Container) (op : Opcode) (m : Machine) : Prop :=
  ∃ index m', m.Executes script op (.failed (.slotOutOfRange index)) m'

theorem misses_of_error {op : Opcode} {x : Exec Unit}
    (h : ∃ index m', x m = .error (.slotOutOfRange index) m')
    (hop : perform script op = next x) : Misses script op m := by
  obtain ⟨index, m', failed⟩ := h
  exact ⟨index, m', executes_of_error failed hop⟩

structure Addressed (script : Container) (m : Machine) (below arguments : List Value) (n : Int64)
    (above : List Value) : Prop where
  argument (i : Int64) (v : Value) : 0 ≤ i.toInt → arguments[i.toInt.toNat]? = some v →
    (m.under [.int i]).Executes script .fetch .continuing (m.under [v])
  count : (m.under [.int n]).Executes script .fetch .continuing (m.under [.int n])
  store (i : Int64) (v : Value) : 0 ≤ i.toInt → i.toInt < n.toInt →
    ∃ m', (m.under [.int i, v]).Executes script .store .continuing m' ∧
      (∃ data, m' = { m with data }) ∧
      m'.ArgumentFrame below (arguments.set i.toInt.toNat v) n above ∧
      (m'.under [.int i]).Executes script .fetch .continuing (m'.under [v]) ∧
      (∀ j : Int64, j ≠ i → 0 ≤ j.toInt → j.toInt < n.toInt →
        ∃ w, (m.under [.int j]).Executes script .fetch .continuing (m.under [w]) ∧
          (m'.under [.int j]).Executes script .fetch .continuing (m'.under [w])) ∧
      ∀ g : Int64, 0 ≤ g.toInt → m.globalsBase + g.toInt.toNat < m.data.length →
        ∃ w, (m.under [.int g]).Executes script .fetchGlobal .continuing (m.under [w]) ∧
          (m'.under [.int g]).Executes script .fetchGlobal .continuing (m'.under
            [if m.globalsBase + g.toInt.toNat = below.length + i.toInt.toNat then v else w])
  popToBase : m.Executes script .popToBase .continuing { m with data := below.reverse }

theorem ArgumentFrame.addressed (frame : m.ArgumentFrame below arguments n above)
    (fits : m.data.length < UInt64.size) : Addressed script m below arguments n above where
  argument i v nonneg hv := frame.fetch_argument fits nonneg hv
  count := frame.fetch_count fits
  store i v nonneg inside := by
    have hcount := frame.count
    have hi : i.toInt.toNat < arguments.length := by omega
    have stored := frame.stored hi v
    have fits' : (m.storing (below.length + i.toInt.toNat) v).data.length < UInt64.size := by
      simpa [storing, Stack.bottomUp] using fits
    refine ⟨_, frame.store fits nonneg inside, ⟨_, rfl⟩, stored, ?same,
      fun j other nonneg' inside' => ?other, fun g => fetchGlobal_storing v fits⟩
    case same => exact stored.fetch_argument fits' nonneg (List.getElem?_set_self hi)
    case other =>
      have hj : j.toInt.toNat < arguments.length := by omega
      have apart : i.toInt.toNat ≠ j.toInt.toNat := by
        intro same
        exact other (Int64.toInt_inj.mp (by omega))
      have hw := List.getElem?_eq_getElem hj
      refine ⟨_, frame.fetch_argument fits nonneg' hw, stored.fetch_argument fits' nonneg' ?_⟩
      rw [List.getElem?_set_ne apart, hw]
  popToBase := frame.popToBase

/-- A frame addresses its arguments, however many values are above them and whatever has become
of those below. Closing the frame restores the base that was saved, which in any run is one that
an entry of the call stack can hold, by `frameBase_step`. -/
theorem arguments_addressed {m : Machine} {below arguments : List Value} {n : Int64}
    (hdata : m.data.bottomUp = below ++ (arguments ++ [.int n]))
    (hn : n.toInt = arguments.length) (script : Container) :
    (∃ m₁, m.Executes script .pushBase .continuing m₁ ∧ m₁.data = m.data ∧
      m₁.calls = .ofNat m.frameBase :: m.calls ∧
      ∀ more : Stack, (m₁.under more).ArgumentFrame below arguments n more.bottomUp) ∧
    (∀ (m' : Machine) (below' arguments' above : List Value),
      m'.ArgumentFrame below' arguments' n above → m'.data.length < UInt64.size →
      Addressed script m' below' arguments' n above) ∧
    (∀ (m' : Machine) (i : Int64) (v : Value),
      (i.toInt < 0 ∨ m'.data.length ≤ m'.frameBase + i.toInt.toNat →
        Misses script .fetch (m'.under [.int i]) ∧ Misses script .store (m'.under [.int i, v])) ∧
      (i.toInt < 0 ∨ m'.data.length ≤ m'.globalsBase + i.toInt.toNat →
        Misses script .fetchGlobal (m'.under [.int i]) ∧
        Misses script .storeGlobal (m'.under [.int i, v]))) ∧
    (m.frameBase ≤ Int64.maxValue.toInt →
      ∀ (m' : Machine) (calls : Stack), m'.calls = .ofNat m.frameBase :: calls →
        m'.Executes script .popBase .continuing { m' with calls, frameBase := m.frameBase }) := by
  refine ⟨?opened, fun m' below' arguments' above frame fits => frame.addressed fits, ?missed,
    fun small m' calls hcalls => popBase_of_saved hcalls small⟩
  case opened =>
    refine ⟨_, pushBase_of_arguments hdata hn, rfl, rfl, fun more => ?_⟩
    have frame : ArgumentFrame { m with
        calls := .ofNat m.frameBase :: m.calls
        frameBase := below.length } below arguments n [] := ⟨rfl, hdata, hn⟩
    exact frame.under more
  case missed =>
    intro m' i v
    constructor
    · intro outside
      exact ⟨misses_of_error (fetchSlot_outside outside) rfl,
        misses_of_error (storeSlot_outside outside) rfl⟩
    · intro outside
      exact ⟨misses_of_error (fetchSlot_outside outside) rfl,
        misses_of_error (storeSlot_outside outside) rfl⟩

theorem one_argument_addressed :
    let m : Machine := { data := [.int 1, .text "rat", .int 7], frameBase := 2 }
    ∃ m₁, m.Executes echoScript .pushBase .continuing m₁ ∧
      ((m₁.under [.int 5]).under [.int 0]).Executes echoScript .fetch .continuing
        ((m₁.under [.int 5]).under [.text "rat"]) ∧
      m₁.Executes echoScript .popBase .continuing { m₁ with calls := [], frameBase := 2 } := by
  intro m
  have hdata : m.data.bottomUp = [.int 7] ++ ([.text "rat"] ++ [.int 1]) := rfl
  obtain ⟨⟨m₁, opened, data, calls, frame⟩, addressed, -, closed⟩ :=
    arguments_addressed hdata (by decide) echoScript
  have fits : (m₁.under [.int 5]).data.length < UInt64.size := by
    rw [under, data]
    exact (by decide : 4 < UInt64.size)
  have argument := (addressed _ _ _ _ (frame [.int 5]) fits).argument
  exact ⟨m₁, opened, argument 0 _ (by decide) rfl, closed (by decide) m₁ [] calls⟩

end Machine

end ScriptMachine
