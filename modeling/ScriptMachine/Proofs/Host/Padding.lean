import ScriptMachine.Proofs.Host.Variables

/-!
# Hosts that answer with no padding

The padding value could reach a host with a request, and a script with an answer. A host is
reliable if it never answers with it, provided that it is never handed it. The hosts with a
store of variables are, as long as none has been put into the store from elsewhere.
-/

namespace ScriptMachine

variable {σ : Type}

namespace Request

def handed? : Request → Option Value
  | .setProperty _ _ v | .setMapVar _ v | .setGlobalVar _ v | .storeExternal _ v => some v
  | _ => none

def value? : (r : Request) → r.Answer → Option Value
  | .property .., v | .callProcedure .., v | .mapVar _, v | .globalVar _, v
  | .fetchExternal _, v => some v
  | .setProperty .., _ | .trigger .., _ | .message .., _ | .player, _ | .setMapVar .., _
  | .setGlobalVar .., _ | .storeExternal .., _ | .exportVar _, _ => none

def Unpadded (r : Request) : Prop := r.handed? ≠ some .none

theorem unpadded_of_handed {r : Request} {v : Value} (h : r.handed? = some v) (hv : v ≠ .none) :
    r.Unpadded :=
  fun padding => hv (Option.some_inj.mp (h.symm.trans padding))

end Request

namespace Reply

variable {r : Request}

def Unpadded (reply : Reply r) : Prop := ∀ a, reply = .ok a → r.value? a ≠ some .none

theorem unpadded_error (e : HostError) : Unpadded (.error e : Reply r) := by
  intro a ha
  contradiction

theorem unpadded_of_value? (reply : Reply r) (h : ∀ a, r.value? a = none) : reply.Unpadded := by
  intro a _ padding
  rw [h a] at padding
  contradiction

end Reply

/-- From this state on, the host gives no padding in any answer unless it was handed some. -/
def Host.Reliable (host : Host σ) (s : σ) : Prop :=
  ∀ done : List Request, (∀ q ∈ done, q.Unpadded) → ∀ r : Request, r.Unpadded →
    Reply.Unpadded (host.answer r (host.after done s)).1

namespace Host

variable {host : Host σ} {s : σ} {r : Request}

theorem reliable_of_invariant {I : σ → Prop} (start : I s)
    (step : ∀ r s, r.Unpadded → I s →
      Reply.Unpadded (host.answer r s).1 ∧ I (host.answer r s).2) : host.Reliable s := by
  intro done hdone r hr
  have inv : I (host.after done s) := by
    induction done generalizing s with
    | nil => exact start
    | cons q rest ih =>
      obtain ⟨first, others⟩ := List.forall_mem_cons.mp hdone
      exact ih (step q s first start).right others
  exact (step r _ hr inv).left

theorem reliable_of_unpadded (h : ∀ r s, Reply.Unpadded (host.answer r s).1) (s : σ) :
    host.Reliable s :=
  fun _ _ r _ => h r _

theorem Reliable.reply (h : host.Reliable s) (hr : r.Unpadded) :
    Reply.Unpadded (host.answer r s).1 :=
  h [] (fun _ hq => absurd hq List.not_mem_nil) r hr

theorem Reliable.state (h : host.Reliable s) (hr : r.Unpadded) :
    host.Reliable (host.answer r s).2 := by
  intro done hdone q hq
  exact h (r :: done) (List.forall_mem_cons.mpr ⟨hr, hdone⟩) q hq

end Host

/-! Hosts that keep variables. -/

namespace Variables

variable {held : Variables} {r : Request}

def Unpadded (held : Variables) : Prop := ∀ c, held c ≠ some .none

theorem Unpadded.after (h : held.Unpadded) (hr : r.Unpadded) : (held.after r).Unpadded := by
  intro c
  rw [Variables.after]
  split
  · rw [Request.leaves]
    split
    · cases hc : held c with
      | none =>
        intro padding
        cases padding
      | some v => exact fun padding => h c (hc.trans padding)
    · cases hwritten : r.written? with
      | none => exact h c
      | some v =>
        have handed : r.handed? = some v := by
          cases r <;> first | contradiction | exact hwritten
        exact fun padding => hr (handed.trans padding)
  · exact h c

theorem Unpadded.reply (h : held.Unpadded) (r : Request) : Reply.Unpadded (r.reply held) := by
  have read (c : Cell) (e : HostError) (v : Value)
      (hv : (held c).elim (.error e) Except.ok = .ok v) : some v ≠ some .none := by
    cases hc : held c with
    | none =>
      rw [hc] at hv
      contradiction
    | some v' =>
      rw [hc] at hv
      cases hv
      exact fun padding => h c (hc.trans padding)
  intro a ha
  cases r with
  | mapVar index => exact read _ _ a ha
  | globalVar index => exact read _ _ a ha
  | fetchExternal name => exact read _ _ a ha
  | property | callProcedure => contradiction
  | _ => exact Reply.unpadded_of_value? _ (fun _ => rfl) a ha

end Variables

/-- A host with variables is reliable if it has no padding to give elsewhere. -/
theorem Host.Keeps.reliable {view : σ → Variables} {host : Host σ} {s : σ} {I : σ → Prop}
    (keeps : host.Keeps view) (held : (view s).Unpadded) (start : I s)
    (kept : ∀ r s, I s → I (host.answer r s).2)
    (beside : ∀ r s, I s → ¬ r.onVariable = true →
      Reply.Unpadded (host.answer r s).1 ∧ view (host.answer r s).2 = view s) :
    host.Reliable s := by
  refine reliable_of_invariant (I := fun s => (view s).Unpadded ∧ I s) ⟨held, start⟩ ?_
  rintro r s hr ⟨held, inv⟩
  by_cases on : r.onVariable = true
  · rw [keeps.reply r s on, keeps.state r s on]
    exact ⟨held.reply r, held.after hr, kept r s inv⟩
  · obtain ⟨reply, same⟩ := beside r s inv on
    rw [same]
    exact ⟨reply, held, kept r s inv⟩

theorem Sandbox.unpadded_orError {r : Request} {e : HostError} {found : Option r.Answer}
    (h : ∀ a, found = some a → r.value? a ≠ some .none) :
    Reply.Unpadded (orError e found : Reply r) := by
  intro a ha
  cases found with
  | none => contradiction
  | some a' =>
    cases ha
    exact h a rfl

theorem Entity.property?_ne_none (e : Entity) (p : Property) : e.property? p ≠ some .none := by
  cases p with
  | stat index => cases h : e.stats.get? index <;> simp [property?, h]
  | name | pid | type =>
    intro padding
    cases padding

theorem Sandbox.host_reliable {s : Sandbox} (held : s.held.Unpadded)
    (results : ∀ k, s.results.get? k ≠ some .none) : host.Reliable s := by
  refine host_keeps.reliable (I := fun s => ∀ k, s.results.get? k ≠ some .none) held results ?_ ?_
  · intro r s inv
    cases r with
    | property h p =>
      simp only [host, answer]
      cases s.entity? h <;> exact inv
    | setProperty h p v =>
      simp only [host, answer, setProperty]
      cases s.entity? h with
      | none => exact inv
      | some e =>
        simp only
        cases e.write? p v <;> exact inv
    | _ => exact inv
  · intro r s inv off
    cases r with
    | property h p =>
      simp only [host, answer]
      cases s.entity? h with
      | none => exact ⟨Reply.unpadded_error _, rfl⟩
      | some e =>
        refine ⟨unpadded_orError fun v hv padding => ?_, rfl⟩
        obtain rfl := Option.some_inj.mp padding
        exact e.property?_ne_none p hv
    | setProperty h p v =>
      refine ⟨Reply.unpadded_of_value? _ fun _ => rfl, ?_⟩
      simp only [host, answer, setProperty]
      cases s.entity? h with
      | none => rfl
      | some e =>
        simp only
        cases e.write? p v <;> rfl
    | callProcedure script procedure context =>
      refine ⟨unpadded_orError fun v hv padding => ?_, rfl⟩
      obtain rfl := Option.some_inj.mp padding
      exact inv _ hv
    | trigger | message | player => exact ⟨Reply.unpadded_of_value? _ fun _ => rfl, rfl⟩
    | _ => exact absurd rfl off

theorem Console.property_ne_none (c : Console) (h : Handle) (p : Property) :
    c.property h p ≠ .ok .none := by
  by_cases other : h ≠ player
  · simp [property, other]
  · cases p with
    | stat index => cases hstat : c.stats.get? index <;> simp [property, other, hstat]
    | name | pid | type => simp [property, other]

theorem Console.host_reliable {c : Console} (held : c.held.Unpadded) : host.Reliable c := by
  refine host_keeps.reliable (I := fun _ => True) held trivial (fun _ _ _ => trivial) ?_
  intro r c _ off
  cases r with
  | property h p =>
    refine ⟨fun v hv padding => ?_, rfl⟩
    obtain rfl := Option.some_inj.mp padding
    exact c.property_ne_none h p hv
  | setProperty h p v =>
    refine ⟨Reply.unpadded_of_value? _ fun _ => rfl, ?_⟩
    simp only [host, answer, setProperty]
    split
    · rfl
    · split <;> rfl
  | callProcedure => exact ⟨Reply.unpadded_error _, rfl⟩
  | trigger | message | player => exact ⟨Reply.unpadded_of_value? _ fun _ => rfl, rfl⟩
  | _ => exact absurd rfl off

theorem Refusing.host_reliable : host.Reliable () := by
  apply Host.reliable_of_unpadded
  intro r s
  exact Reply.unpadded_error _

end ScriptMachine
