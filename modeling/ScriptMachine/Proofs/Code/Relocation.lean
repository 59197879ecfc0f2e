import ScriptMachine.Proofs.Code.Assembling

/-!
# Moving a block

The addresses of labels can be written into finished code, each into the operand that was left
blank for it. No other byte depends on where a block is placed, and the operands of bound labels
move with it.
-/

namespace ScriptMachine

namespace CodeItem

def fixups : Nat → List CodeItem → List (Nat × Label)
  | _, [] => []
  | place, .address label :: rest => (place + 2, label) :: fixups (place + 6) rest
  | place, item :: rest => fixups (place + item.size) rest

def patch (code : List UInt8) (place : Nat) (bytes : List UInt8) : List UInt8 :=
  code.take place ++ bytes ++ code.drop (place + bytes.length)

def patched (address : Label → UInt32) (place : Nat) (blank : List UInt8) (items : List CodeItem) :
    List UInt8 :=
  (fixups place items).foldl
    (fun code (place, label) => patch code place (bigEndian 4 (address label).toNat)) blank

section

variable (address address' : Label → UInt32)

theorem patch_append (front blank bytes behind : List UInt8) (h : blank.length = bytes.length) :
    patch (front ++ (blank ++ behind)) front.length bytes = front ++ (bytes ++ behind) := by
  have behind_eq : (front ++ (blank ++ behind)).drop (front.length + bytes.length) = behind := by
    rw [← h, ← List.length_append, ← List.append_assoc, List.drop_left]
  rw [patch, List.take_left, behind_eq, List.append_assoc]

theorem patched_address (place : Nat) (blank : List UInt8) (label : Label)
    (rest : List CodeItem) :
    patched address place blank (.address label :: rest) = patched address (place + 6)
      (patch blank (place + 2) (bigEndian 4 (address label).toNat)) rest := rfl

theorem patched_encode (front : List UInt8) (items : List CodeItem) :
    patched address front.length (front ++ items.flatMap (encode fun _ => 0)) items =
      front ++ items.flatMap (encode address) := by
  induction items generalizing front with
  | nil => rfl
  | cons item rest ih =>
    have next := ih (front ++ item.encode address)
    rw [List.length_append, length_encode, List.append_assoc, List.append_assoc] at next
    cases item with
    | word | int | float | text => exact next
    | address label =>
      -- The blank operand is behind the opcode.
      have written := patch_append (front ++ bigEndian 2 Opcode.pushInt.code.toNat)
        (bigEndian 4 (0 : UInt32).toNat) (bigEndian 4 (address label).toNat)
        (rest.flatMap (encode fun _ => 0))
        (by rw [length_bigEndian, length_bigEndian])
      rw [List.length_append, length_bigEndian] at written
      have first : patch (front ++ (CodeItem.address label :: rest).flatMap (encode fun _ => 0))
          (front.length + 2) (bigEndian 4 (address label).toNat) =
          front ++ ((CodeItem.address label).encode address ++
            rest.flatMap (encode fun _ => 0)) := by
        simpa only [List.flatMap_cons, encode, literal, List.append_assoc] using written
      rw [patched_address, first]
      exact next

/-- The code of items with two addresses of a label differs only where one of them is written. -/
theorem fixup_of_ne {items : List CodeItem} (place : Nat) {index : Nat}
    (h : (items.flatMap (encode address'))[index]? ≠ (items.flatMap (encode address))[index]?) :
    ∃ operand label, (operand, label) ∈ fixups place items ∧ address' label ≠ address label ∧
      operand ≤ place + index ∧ place + index < operand + 4 := by
  induction items generalizing place index with
  | nil => exact absurd rfl h
  | cons item rest ih =>
    rw [List.flatMap_cons, List.flatMap_cons] at h
    by_cases inside : index < item.size
    · have here : (item.encode address')[index]? ≠ (item.encode address)[index]? := by
        rwa [List.getElem?_append_left (by rwa [length_encode]),
          List.getElem?_append_left (by rwa [length_encode])] at h
      cases item with
      | word | int | float | text => exact absurd rfl here
      | address label =>
        have behind : 2 ≤ index := by
          by_contra few
          have first : index < (bigEndian 2 Opcode.pushInt.code.toNat).length := by
            rw [length_bigEndian]
            omega
          rw [encode, encode, literal, literal, List.getElem?_append_left first,
            List.getElem?_append_left first] at here
          exact here rfl
        have moved : address' label ≠ address label := by
          intro same
          rw [encode, encode, same] at here
          exact here rfl
        change index < 6 at inside
        exact ⟨place + 2, label, List.mem_cons_self, moved, by omega, by omega⟩
    · have further : (rest.flatMap (encode address'))[index - item.size]? ≠
          (rest.flatMap (encode address))[index - item.size]? := by
        rwa [List.getElem?_append_right (by rw [length_encode]; omega), length_encode,
          List.getElem?_append_right (by rw [length_encode]; omega), length_encode] at h
      obtain ⟨operand, label, hmem, moved, hlow, hhigh⟩ := ih (place + item.size) further
      refine ⟨operand, label, ?_, moved, by omega, by omega⟩
      cases item with
      | word | int | float | text => exact hmem
      | address => exact List.mem_cons_of_mem _ hmem

theorem exists_of_mem_fixups {items : List CodeItem} {place operand : Nat} {label : Label}
    (h : (operand, label) ∈ fixups place items) :
    ∃ before after, items = before ++ .address label :: after ∧
      operand = place + totalSize before + 2 := by
  induction items generalizing place with
  | nil => contradiction
  | cons item rest ih =>
    have further {size : Nat} (hsize : item.size = size)
        (h : (operand, label) ∈ fixups (place + size) rest) :
        ∃ before after, item :: rest = before ++ .address label :: after ∧
          operand = place + totalSize before + 2 := by
      obtain ⟨before, after, rfl, hoperand⟩ := ih h
      refine ⟨item :: before, after, rfl, ?_⟩
      rw [totalSize, hsize, hoperand, Nat.add_assoc place]
    cases item with
    | word | int | float | text => exact further rfl h
    | address own =>
      rcases List.mem_cons.mp h with first | h
      · obtain ⟨rfl, rfl⟩ := Prod.mk.inj first
        exact ⟨[], rest, rfl, rfl⟩
      · exact further rfl h

end

theorem asWords_append (address : Label → UInt32) (place : Nat) (items more : List CodeItem) :
    asWords address place (items ++ more) =
      asWords address place items ++ asWords address (place + totalSize items) more := by
  induction items generalizing place with
  | nil => rfl
  | cons item rest ih =>
    rw [List.cons_append, asWords, asWords, ih, totalSize, Nat.add_assoc, List.cons_append]

end CodeItem

namespace BlockStep

theorem split_of_mem_bindings {steps : List BlockStep} {start labels place : Nat} {label : Label}
    (h : (label, place) ∈ bindings start labels steps) :
    ∃ before after, steps.filterMap item? = before ++ after ∧
      place = start + CodeItem.totalSize before := by
  induction steps generalizing start labels with
  | nil => contradiction
  | cons s rest ih =>
    rcases List.mem_append.mp h with here | later
    · obtain ⟨_, -, hplace⟩ := List.mem_map.mp here
      obtain ⟨-, rfl⟩ := Prod.mk.inj hplace
      exact ⟨[], _, rfl, rfl⟩
    · obtain ⟨before, after, hsplit, rfl⟩ := ih later
      refine ⟨s.item?.toList ++ before, after, ?_, ?_⟩
      · cases hitem : s.item? with
        | none => rw [List.filterMap_cons_none hitem, hsplit]; rfl
        | some item => rw [List.filterMap_cons_some hitem, hsplit]; rfl
      · rw [CodeItem.totalSize_append, Nat.add_assoc]
        rfl

theorem mem_of_lastPlace {label : Label} {bindings : List (Label × Nat)} {place : Nat}
    (h : lastPlace label bindings = some place) : (label, place) ∈ bindings := by
  obtain ⟨⟨bound, place'⟩, hmem, hplace⟩ := List.mem_filterMap.mp (List.mem_of_getLast? h)
  change (if bound = label then some place' else none) = some place at hplace
  split at hplace
  · rename_i same
    cases hplace
    rwa [← same]
  · contradiction

end BlockStep

namespace Block

open BlockStep

def words (steps : List BlockStep) (base : UInt32) : List (Nat × CodeWord) :=
  CodeItem.asWords (fun label => .ofNat (target steps base.toNat label)) 0
    (steps.filterMap item?)

structure Assembled (steps : List BlockStep) (base : UInt32) (code : List UInt8) : Prop where
  walk : (Reader.ofBytes code.toArray).walk = .ok (words steps base)
  bound : ∀ label place, (label, place) ∈ bindings 0 0 steps →
    place = code.length ∨ ∃ word, (place, word) ∈ words steps base
  target_lt : ∀ label, target steps base.toNat label < 2147483648
  patched : code = CodeItem.patched (fun label => .ofNat (target steps base.toNat label)) 0
    ((steps.filterMap item?).flatMap (CodeItem.encode fun _ => 0)) (steps.filterMap item?)

structure Moved (steps : List BlockStep) (base base' : UInt32) (code code' : List UInt8) :
    Prop where
  length : code'.length = code.length
  differ : ∀ index, code'[index]? ≠ code[index]? →
    ∃ operand label place, (operand, label) ∈ CodeItem.fixups 0 (steps.filterMap item?) ∧
      lastPlace label (bindings 0 0 steps) = some place ∧
      operand ≤ index ∧ index < operand + 4
  operand : ∀ operand label place,
    (operand, label) ∈ CodeItem.fixups 0 (steps.filterMap item?) →
    lastPlace label (bindings 0 0 steps) = some place →
      StandsAt code operand (bigEndian 4 (base.toNat + place)) ∧
      StandsAt code' operand (bigEndian 4 (base'.toNat + place))

variable {steps : List BlockStep}

theorem size_ofSteps (steps : List BlockStep) :
    (ofSteps steps).size = CodeItem.totalSize (steps.filterMap item?) :=
  congrArg CodeItem.totalSize (items_extend {} steps)

theorem target_lt {base : UInt32} (fits : base.toNat + (ofSteps steps).size < 2147483648)
    (label : Label) : target steps base.toNat label < 2147483648 := by
  rw [target]
  split
  · rename_i place hplace
    obtain ⟨before, after, hsplit, rfl⟩ := split_of_mem_bindings (mem_of_lastPlace hplace)
    rw [size_ofSteps, hsplit, CodeItem.totalSize_append] at fits
    omega
  · omega

theorem assemble_ofSteps (allowed : AllAllowed 0 steps) (base : UInt32) :
    (ofSteps steps).assemble base = (steps.filterMap item?).flatMap
      (CodeItem.encode fun label => .ofNat (target steps base.toNat label)) := by
  have items : (ofSteps steps).items.toList = steps.filterMap item? := items_extend {} steps
  have addresses := funext (address_ofSteps allowed base)
  rw [assemble, items, addresses]

theorem assembled (allowed : AllAllowed 0 steps) {base : UInt32}
    (fits : base.toNat + (ofSteps steps).size < 2147483648) :
    Assembled steps base ((ofSteps steps).assemble base) where
  walk := by
    rw [Reader.ofBytes_eq_between, assemble_ofSteps allowed]
    exact CodeItem.walk_encode [] _ (sound_of_allAllowed allowed)
  bound label place h := by
    obtain ⟨before, after, hsplit, rfl⟩ := split_of_mem_bindings h
    rw [length_assemble, size_ofSteps, words, hsplit]
    cases after with
    | nil =>
      rw [List.append_nil, Nat.zero_add]
      exact .inl rfl
    | cons item after =>
      rw [CodeItem.asWords_append]
      exact .inr ⟨_, List.mem_append_right _ List.mem_cons_self⟩
  target_lt := target_lt fits
  patched := by
    rw [assemble_ofSteps allowed]
    exact (CodeItem.patched_encode _ [] _).symm

theorem standsAt_operand (allowed : AllAllowed 0 steps) {base : UInt32}
    (fits : base.toNat + (ofSteps steps).size < 2147483648) {operand place : Nat} {label : Label}
    (h : (operand, label) ∈ CodeItem.fixups 0 (steps.filterMap item?))
    (hplace : lastPlace label (bindings 0 0 steps) = some place) :
    StandsAt ((ofSteps steps).assemble base) operand (bigEndian 4 (base.toNat + place)) := by
  obtain ⟨before, after, hsplit, rfl⟩ := CodeItem.exists_of_mem_fixups h
  have items : (ofSteps steps).items.toList = steps.filterMap item? := items_extend {} steps
  have whole : StandsAt ((ofSteps steps).assemble base) 0 ((ofSteps steps).assemble base) :=
    ⟨[], [], by rw [List.nil_append, List.append_nil], rfl⟩
  have stands := (standsAt_item whole (items.trans hsplit)).right
  have bound : target steps base.toNat label = base.toNat + place := by
    rw [target, hplace]
  have small := target_lt fits label
  rw [bound] at small
  have value : (UInt32.ofNat (base.toNat + place)).toNat = base.toNat + place := by
    rw [UInt32.toNat_ofNat_of_lt']
    rw [UInt32.size]
    omega
  rw [address_ofSteps allowed, bound, value, length_bigEndian] at stands
  exact stands

theorem moved (allowed : AllAllowed 0 steps) {base base' : UInt32}
    (fits : base.toNat + (ofSteps steps).size < 2147483648)
    (fits' : base'.toNat + (ofSteps steps).size < 2147483648) :
    Moved steps base base' ((ofSteps steps).assemble base) ((ofSteps steps).assemble base') where
  length := by rw [length_assemble, length_assemble]
  differ index h := by
    rw [assemble_ofSteps allowed, assemble_ofSteps allowed] at h
    obtain ⟨operand, label, hmem, ne, hlow, hhigh⟩ := CodeItem.fixup_of_ne _ _ 0 h
    rw [Nat.zero_add] at hlow hhigh
    -- A label that was never bound has the same address at every base.
    cases hplace : lastPlace label (bindings 0 0 steps) with
    | none =>
      rw [target, target, hplace] at ne
      exact absurd rfl ne
    | some place => exact ⟨operand, label, place, hmem, hplace, hlow, hhigh⟩
  operand _ _ _ h hplace :=
    ⟨standsAt_operand allowed fits h hplace, standsAt_operand allowed fits' h hplace⟩

/-- Assembling and reading are inverse to each other. Code is read as the steps that emitted it,
with the addresses that their bindings amount to, and its end is where the last word ends. With
another base, the operands of bound labels are greater by the difference, and nothing else
changes. -/
theorem assembly_round_trip (allowed : AllAllowed 0 steps) {base : UInt32}
    (fits : base.toNat + (ofSteps steps).size < 2147483648) :
    Assembled steps base ((ofSteps steps).assemble base) ∧
    ∀ base' : UInt32, base'.toNat + (ofSteps steps).size < 2147483648 →
      Moved steps base base' ((ofSteps steps).assemble base)
        ((ofSteps steps).assemble base') :=
  ⟨assembled allowed fits, fun _ fits' => moved allowed fits fits'⟩

def loopSteps : List BlockStep :=
  [.newLabel, .bind ⟨0⟩, .here, .address ⟨0⟩, .plain .jump, .raw 0x1234, .int (-1), .address ⟨1⟩,
    .plain .jump, .bind ⟨0⟩, .newLabel, .address ⟨2⟩]

theorem loop_round_trip :
    (Reader.ofBytes ((ofSteps loopSteps).assemble 100).toArray).walk = .ok
      [(0, ⟨0xC001, some 124⟩), (6, ⟨0x8004, none⟩), (8, ⟨0x1234, none⟩),
        (10, ⟨0xC001, some 0xFFFFFFFF⟩), (16, ⟨0xC001, some 100⟩), (22, ⟨0x8004, none⟩),
        (24, ⟨0xC001, some 0⟩)] ∧
    Moved loopSteps 100 300 ((ofSteps loopSteps).assemble 100)
      ((ofSteps loopSteps).assemble 300) := by
  obtain ⟨assembled, moves⟩ := @assembly_round_trip loopSteps (by decide) 100 (by decide)
  exact ⟨assembled.walk.trans (by decide), moves 300 (by decide)⟩

end Block

end ScriptMachine
