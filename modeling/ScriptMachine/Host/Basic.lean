import ScriptMachine.Log.Event

/-!
# Hosts

A host is a state machine that answers requests, and says which of them it reports. What
it reports depends on the request alone. A world couples the state of a host with the
draws of chance that are left and with the log.
-/

namespace ScriptMachine

structure Host (σ : Type) where
  answer : (r : Request) → σ → Reply r × σ
  report : Request → List Event := fun _ => []

structure Dice where
  draws : Nat → Nat
  used : Nat := 0

namespace Dice

def roll (d : Dice) : Nat := d.draws d.used

def next (d : Dice) : Dice := { d with used := d.used + 1 }

def seeded (seed : UInt64) : Dice where
  draws n :=
    let x := seed + .ofNat (n + 1) * 0x9E3779B97F4A7C15
    let x := (x ^^^ (x >>> 30)) * 0xBF58476D1CE4E5B9
    let x := (x ^^^ (x >>> 27)) * 0x94D049BB133111EB
    (x ^^^ (x >>> 31)).toNat

end Dice

def between (low high : Int64) (draw : Nat) : Int64 :=
  .ofInt (low.toInt + (draw : Int) % (high.toInt - low.toInt + 1))

structure World (σ : Type) where
  host : σ
  dice : Dice := ⟨id, 0⟩
  log : Log := {}

namespace World

variable {σ : Type}

def note (w : World σ) (e : Event) : World σ := { w with log := w.log.note e }

def ask (host : Host σ) (w : World σ) (r : Request) : Reply r × World σ :=
  let (reply, state) := host.answer r w.host
  (reply, { w with host := state, log := w.log.noteAll (host.report r) })

end World

end ScriptMachine
