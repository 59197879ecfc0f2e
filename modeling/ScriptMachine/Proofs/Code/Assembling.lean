import ScriptMachine.Proofs.Code.Standing
import ScriptMachine.Proofs.Code.Walking

/-!
# Blocks step by step

A block is emitted step by step, and its labels are made and bound in between. The address of a
label is only known when the block is assembled, but then it only depends on where the label was
bound last. So the code of a block is read as the steps that emitted it, and moving the block
changes nothing but the addresses of bound labels.
-/

namespace ScriptMachine

inductive BlockStep where
  | plain (op : Opcode)
  | raw (code : UInt16)
  | int (n : Int32)
  | float (bits : UInt32)
  | text (offset : UInt32)
  | address (label : Label)
  | newLabel
  | bind (label : Label)
  | here

namespace BlockStep

def item? : BlockStep → Option CodeItem
  | .plain op => some (.word op.code)
  | .raw code => some (.word code)
  | .int n => some (.int n)
  | .float bits => some (.float bits)
  | .text offset => some (.text offset)
  | .address label => some (.address label)
  | .newLabel | .bind _ | .here => none

def size (s : BlockStep) : Nat := CodeItem.totalSize s.item?.toList

def labels : BlockStep → Nat
  | .newLabel | .here => 1
  | _ => 0

def bound? (labels : Nat) : BlockStep → Option Label
  | .bind label => some label
  | .here => some ⟨labels⟩
  | _ => none

/-- A step can use the labels made before it. For the literal pushes there are steps of their
own. -/
def Allowed (labels : Nat) : BlockStep → Prop
  | .plain op => op.operandSize = 0
  | .raw code =>
    code ≠ Opcode.pushInt.code ∧ code ≠ Opcode.pushFloat.code ∧ code ≠ Opcode.pushString.code
  | .address label | .bind label => label.index < labels
  | _ => True

instance (labels : Nat) : (s : BlockStep) → Decidable (s.Allowed labels)
  | .plain op => inferInstanceAs (Decidable (op.operandSize = 0))
  | .raw _ => inferInstanceAs (Decidable (_ ∧ _ ∧ _))
  | .address label | .bind label => inferInstanceAs (Decidable (label.index < labels))
  | .int _ | .float _ | .text _ | .newLabel | .here => inferInstanceAs (Decidable True)

def AllAllowed : Nat → List BlockStep → Prop
  | _, [] => True
  | labels, s :: rest => s.Allowed labels ∧ AllAllowed (labels + s.labels) rest

instance : (labels : Nat) → (steps : List BlockStep) → Decidable (AllAllowed labels steps)
  | _, [] => inferInstanceAs (Decidable True)
  | labels, s :: rest =>
    have := instDecidableAllAllowed (labels + s.labels) rest
    inferInstanceAs (Decidable (_ ∧ _))

def bindings : Nat → Nat → List BlockStep → List (Label × Nat)
  | _, _, [] => []
  | place, labels, s :: rest =>
    (s.bound? labels).toList.map (·, place) ++
      bindings (place + s.size) (labels + s.labels) rest

def lastPlace (label : Label) (bindings : List (Label × Nat)) : Option Nat :=
  (bindings.filterMap fun (bound, place) => if bound = label then some place else none).getLast?

/-- The address of a label, of which the last binding counts. It is zero without one. -/
def target (steps : List BlockStep) (base : Nat) (label : Label) : Nat :=
  match lastPlace label (bindings 0 0 steps) with
  | some place => base + place
  | none => 0

theorem lastPlace_append (label : Label) (earlier later : List (Label × Nat)) :
    lastPlace label (earlier ++ later) = (lastPlace label later).or (lastPlace label earlier) := by
  rw [lastPlace, List.filterMap_append, List.getLast?_append]
  rfl

theorem sound_of_allowed {labels : Nat} {s : BlockStep} {item : CodeItem}
    (allowed : s.Allowed labels) (h : s.item? = some item) : item.Sound := by
  cases s with
  | plain op =>
    cases h
    change op.operandSize = 0 at allowed
    rw [CodeItem.Sound, CodeWord.hasOperand, Opcode.ofCode?_code, Option.any_some, allowed]
    rfl
  | raw code =>
    cases h
    obtain ⟨int, float, text⟩ := allowed
    rw [CodeItem.Sound, CodeWord.hasOperand]
    cases hop : Opcode.ofCode? code with
    | none => rfl
    | some op =>
      rw [← Opcode.code_of_ofCode? hop] at int float text
      cases op with
      | pushInt => exact absurd rfl int
      | pushFloat => exact absurd rfl float
      | pushString => exact absurd rfl text
      | _ => rfl
  | int | float | text | address =>
    cases h
    trivial
  | newLabel | bind | here => contradiction

theorem sound_of_allAllowed {labels : Nat} {steps : List BlockStep}
    (allowed : AllAllowed labels steps) : ∀ item ∈ steps.filterMap item?, item.Sound := by
  induction steps generalizing labels with
  | nil => exact fun _ h => absurd h List.not_mem_nil
  | cons s rest ih =>
    obtain ⟨first, others⟩ := allowed
    intro item hitem
    obtain ⟨s', hs', h⟩ := List.mem_filterMap.mp hitem
    rcases List.mem_cons.mp hs' with rfl | hs'
    · exact sound_of_allowed first h
    · exact ih others item (List.mem_filterMap.mpr ⟨s', hs', h⟩)

end BlockStep

namespace CodeItem

theorem totalSize_append (items more : List CodeItem) :
    totalSize (items ++ more) = totalSize items + totalSize more := by
  induction items with
  | nil => exact (Nat.zero_add _).symm
  | cons item rest ih => rw [List.cons_append, totalSize, totalSize, ih, Nat.add_assoc]

end CodeItem

/-! What the steps make of a block. -/

namespace Block

open BlockStep

def apply (b : Block) : BlockStep → Block
  | .plain op => b.op op
  | .raw code => b.emit (.word code)
  | .int n => b.emit (.int n)
  | .float bits => b.emit (.float bits)
  | .text offset => b.emit (.text offset)
  | .address label => b.emit (.address label)
  | .newLabel => b.newLabel.2
  | .bind label => b.bind label
  | .here => b.here.2

def extend (b : Block) (steps : List BlockStep) : Block := steps.foldl apply b

def ofSteps (steps : List BlockStep) : Block := extend {} steps

def place? (b : Block) (label : Label) : Option Nat := b.labels[label.index]?.join

theorem items_apply (b : Block) (s : BlockStep) :
    (b.apply s).items.toList = b.items.toList ++ s.item?.toList := by
  cases s with
  | newLabel | bind | here => exact (List.append_nil _).symm
  | _ => exact Array.toList_push

theorem size_apply (b : Block) (s : BlockStep) : (b.apply s).size = b.size + s.size := by
  rw [size, items_apply, CodeItem.totalSize_append]
  rfl

theorem labels_apply (b : Block) (s : BlockStep) :
    (b.apply s).labels.size = b.labels.size + s.labels := by
  cases s with
  | newLabel => exact Array.size_push _
  | bind => exact Array.size_setIfInBounds
  | here => exact Array.size_setIfInBounds.trans (Array.size_push _)
  | _ => rfl

theorem place?_newLabel (b : Block) (label : Label) :
    b.newLabel.2.place? label = b.place? label := by
  change (b.labels.push none)[label.index]?.join = b.labels[label.index]?.join
  rw [Array.getElem?_push]
  split
  · rename_i h
    rw [h, Array.getElem?_eq_none (Nat.le_refl _)]
    rfl
  · rfl

theorem place?_bind (b : Block) {bound : Label} (inside : bound.index < b.labels.size)
    (label : Label) :
    (b.bind bound).place? label =
      if some bound = some label then some b.size else b.place? label := by
  change (b.labels.setIfInBounds bound.index (some b.size))[label.index]?.join = _
  rw [Array.getElem?_setIfInBounds]
  by_cases same : bound = label
  · subst same
    rw [if_pos rfl, if_pos rfl, if_pos inside]
    rfl
  · have hindex : bound.index ≠ label.index := fun h => same (congrArg Label.mk h)
    rw [if_neg hindex, if_neg (by simpa using same)]
    rfl

theorem place?_apply (b : Block) {s : BlockStep} (allowed : s.Allowed b.labels.size)
    (label : Label) : (b.apply s).place? label =
      if s.bound? b.labels.size = some label then some b.size else b.place? label := by
  cases s with
  | newLabel => exact b.place?_newLabel label
  | bind bound => exact b.place?_bind allowed label
  | here =>
    have inside : (Label.mk b.labels.size).index < b.newLabel.2.labels.size := by
      change _ < (b.labels.push none).size
      rw [Array.size_push]
      exact Nat.lt_succ_self _
    have bound := b.newLabel.2.place?_bind inside label
    rw [place?_newLabel] at bound
    exact bound
  | _ => rfl

theorem items_extend (b : Block) (steps : List BlockStep) :
    (b.extend steps).items.toList = b.items.toList ++ steps.filterMap item? := by
  induction steps generalizing b with
  | nil => exact (List.append_nil _).symm
  | cons s rest ih =>
    change ((b.apply s).extend rest).items.toList = _
    rw [ih, items_apply, List.append_assoc]
    cases h : s.item? with
    | none => rw [List.filterMap_cons_none h]; rfl
    | some item => rw [List.filterMap_cons_some h]; rfl

theorem place?_extend (b : Block) {steps : List BlockStep}
    (allowed : AllAllowed b.labels.size steps) (label : Label) :
    (b.extend steps).place? label =
      (lastPlace label (bindings b.size b.labels.size steps)).or (b.place? label) := by
  induction steps generalizing b with
  | nil => rfl
  | cons s rest ih =>
    obtain ⟨first, others⟩ := allowed
    rw [← labels_apply] at others
    change ((b.apply s).extend rest).place? label = _
    rw [ih (b.apply s) others, place?_apply b first, size_apply, labels_apply, bindings,
      lastPlace_append, Option.or_assoc]
    congr 1
    cases h : s.bound? b.labels.size with
    | none => rfl
    | some bound =>
      by_cases same : bound = label
      · simp [lastPlace, same]
      · simp [lastPlace, same]

theorem address_ofSteps {steps : List BlockStep} (allowed : AllAllowed 0 steps) (base : UInt32)
    (label : Label) :
    (ofSteps steps).address base label = .ofNat (target steps base.toNat label) := by
  have place : (ofSteps steps).place? label = lastPlace label (bindings 0 0 steps) := by
    rw [ofSteps, place?_extend {} allowed]
    exact Option.or_none
  rw [address, target, ← place, place?]
  cases h : (ofSteps steps).labels[label.index]? with
  | none => rfl
  | some bound =>
    cases bound with
    | none => rfl
    | some place =>
      simp only [Option.join_some]
      rw [UInt32.ofNat_add, UInt32.ofNat_toNat]

end Block

end ScriptMachine
