import Mathlib.Tactic.Common
import ScriptMachine.Host.Refusing

/-!
# Hosts that answer alike

The requests a host is given can be observed by a host that writes them down and answers
as before. A host that refuses all but some requests agrees with it on these. Two worlds mirror
each other if a script cannot tell them apart: the logs play no part in that.
-/

namespace ScriptMachine

variable {σ τ : Type}

def Host.recorded (host : Host σ) : Host (σ × List Request) where
  answer r s := ((host.answer r s.1).1, (host.answer r s.1).2, s.2 ++ [r])
  report := host.report

structure Host.Mimics (view : τ → σ) (host' : Host τ) (host : Host σ) : Prop where
  reply : ∀ r t, (host'.answer r t).1 = (host.answer r (view t)).1
  state : ∀ r t, view (host'.answer r t).2 = (host.answer r (view t)).2

theorem Host.mimics_self (host : Host σ) : Host.Mimics id host host :=
  ⟨fun _ _ => rfl, fun _ _ => rfl⟩

theorem Host.mimics_recorded (host : Host σ) : Host.Mimics Prod.fst host.recorded host :=
  ⟨fun _ _ => rfl, fun _ _ => rfl⟩

/-- The host without all that it does for requests of other kinds. -/
def Host.limitedTo (allowed : Request → Bool) (host : Host σ) : Host σ where
  answer r s := if allowed r then host.answer r s else (.error (Refusing.refusal r), s)
  report := host.report

structure Host.Agrees (allowed : Request → Bool) (host' host : Host σ) : Prop where
  answer : ∀ r, allowed r = true → host'.answer r = host.answer r
  report : ∀ r, allowed r = true → host'.report r = host.report r

theorem Host.agrees_limitedTo (allowed : Request → Bool) (host : Host σ) :
    Agrees allowed (host.limitedTo allowed) host :=
  ⟨fun r h => by simp [limitedTo, h], fun _ _ => rfl⟩

theorem Host.Agrees.symm {allowed : Request → Bool} {host' host : Host σ}
    (h : Agrees allowed host' host) : Agrees allowed host host' :=
  ⟨fun r hr => (h.answer r hr).symm, fun r hr => (h.report r hr).symm⟩

namespace World

def recording (w : World σ) : World (σ × List Request) :=
  { host := (w.host, []), dice := w.dice, log := w.log }

structure Mirrors (view : τ → σ) (w' : World τ) (w : World σ) : Prop where
  host : view w'.host = w.host
  dice : w'.dice = w.dice

variable {view : τ → σ} {w' : World τ} {w : World σ}

theorem mirrors_self (w : World σ) : Mirrors id w w := ⟨rfl, rfl⟩

theorem mirrors_recording (w : World σ) : Mirrors Prod.fst w.recording w := ⟨rfl, rfl⟩

theorem Mirrors.note (h : Mirrors view w' w) (e' e : Event) :
    Mirrors view (w'.note e') (w.note e) := ⟨h.host, h.dice⟩

theorem Mirrors.ask {host' : Host τ} {host : Host σ} (mimics : host'.Mimics view host)
    (h : Mirrors view w' w) (r : Request) :
    (w'.ask host' r).1 = (w.ask host r).1 ∧ Mirrors view (w'.ask host' r).2 (w.ask host r).2 := by
  refine ⟨?_, ?_, h.dice⟩
  · change (host'.answer r w'.host).1 = (host.answer r w.host).1
    rw [mimics.reply, h.host]
  · change view (host'.answer r w'.host).2 = (host.answer r w.host).2
    rw [mimics.state, h.host]

theorem ask_agrees {host' host : Host σ} {allowed : Request → Bool}
    (agrees : host'.Agrees allowed host) (w : World σ) {r : Request} (h : allowed r = true) :
    w.ask host' r = w.ask host r := by
  rw [ask, ask, agrees.answer r h, agrees.report r h]

end World

end ScriptMachine
