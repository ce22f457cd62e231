import Ls8.Proofs.Decoding
import Ls8.Snapshot

/-!
# Which documents are snapshots

`Describes` says what a document of a machine holds, without reading it: eight general registers, 256
cells, all of them integers from 0 to 255, a count below 2 to the 64, the name of a run state, and an
instruction or nothing. Reading accepts these documents and no others (`readMachine_eq_ok_iff`). What a
document may leave open is the order of its fields, further fields, whether the parts of a machine come
as fields or as elements, and whether a name without content stands alone.
-/

namespace Ls8

namespace Json

/-! ## What a document holds -/

/-- A document is a natural number below a bound. -/
def HoldsNumber (j : Json) (bound n : Nat) : Prop :=
  n < bound ∧ j = .integer n

/-- A document is an array of exactly `n` integers from 0 to 255, and these are the bytes. -/
def HoldsBytes (j : Json) {n : Nat} (bytes : Vector UInt8 n) : Prop :=
  ∃ items, j = .array items ∧ items.length = n ∧
    ∀ k (h : k < n), ∃ item, items[k]? = some item ∧ item.HoldsNumber 256 bytes[k].toNat

/-- A document is a name without content: a text, or an object with this name for its only field. -/
def IsName (j : Json) (name : String) : Prop :=
  j = .string name ∨ j = .object [(name, .null)]

/-- A document has exactly these parts for elements, or they are its fields of these names. -/
def HasParts (j : Json) (names : List String) (parts : List Json) : Prop :=
  j = .array parts ∨ names.map j.field? = parts.map some

variable {j : Json}

theorem natural?_eq_some_iff {bound n : Nat} :
    j.natural? bound = some n ↔ j.HoldsNumber bound n := by
  cases j with
  | integer value =>
    rw [natural?, HoldsNumber, Option.ite_none_right_eq_some, Option.some.injEq, Json.integer.injEq]
    omega
  | null | bool | fraction | string | array | object => simp [natural?, HoldsNumber]

theorem byte?_eq_some_iff {b : UInt8} : j.byte? = some b ↔ j.HoldsNumber 256 b.toNat := by
  rw [byte?, Option.map_eq_some_iff]
  constructor
  · rintro ⟨n, hn, rfl⟩
    obtain ⟨hlt, rfl⟩ := natural?_eq_some_iff.mp hn
    rw [UInt8.toNat_ofNat_of_lt' hlt]
    exact ⟨hlt, rfl⟩
  · intro h
    exact ⟨b.toNat, natural?_eq_some_iff.mpr h, UInt8.ofNat_toNat⟩

theorem holdsNumber_iff_eq_ofByte {b : UInt8} : j.HoldsNumber 256 b.toNat ↔ j = .ofByte b := by
  rw [HoldsNumber, and_iff_right b.toNat_lt]
  rfl

theorem mapM_byte?_eq_some_iff {items : List Json} {bytes : List UInt8} :
    items.mapM byte? = some bytes ↔ items = bytes.map ofByte := by
  induction items generalizing bytes with
  | nil => cases bytes <;> simp
  | cons item items ih =>
    rw [List.mapM_cons]
    cases bytes with
    | nil => simp [Option.bind_eq_some_iff]
    | cons b bytes =>
      simp [Option.bind_eq_some_iff, byte?_eq_some_iff, holdsNumber_iff_eq_ofByte, ih]

theorem bytes?_eq_some_iff {bytes : List UInt8} : j.bytes? = some bytes ↔ j = .ofBytes bytes := by
  cases j with
  | array items => simpa [bytes?, ofBytes] using mapM_byte?_eq_some_iff
  | null | bool | integer | fraction | string | object => simp [bytes?, ofBytes]

theorem holdsBytes_iff_eq_ofBytes {n : Nat} {bytes : Vector UInt8 n} :
    j.HoldsBytes bytes ↔ j = .ofBytes bytes.toList := by
  constructor
  · rintro ⟨items, rfl, hlength, hitems⟩
    rw [ofBytes, Json.array.injEq]
    refine List.ext_getElem (by simpa using hlength) fun k hk _ => ?_
    obtain ⟨item, hitem, hholds⟩ := hitems k (hlength ▸ hk)
    rw [List.getElem?_eq_getElem hk, Option.some.injEq] at hitem
    simpa [hitem] using holdsNumber_iff_eq_ofByte.mp hholds
  · rintro rfl
    refine ⟨_, rfl, by simp, fun k hk => ?_⟩
    exact ⟨.ofByte bytes[k], by simp [hk], holdsNumber_iff_eq_ofByte.mpr rfl⟩

theorem exists_fields {names : List String} {parts : List Json}
    (h : names.map j.field? = parts.map some) (hne : parts ≠ []) :
    ∃ fields, j = .object fields := by
  cases j with
  | object fields => exact ⟨fields, rfl⟩
  | null | bool | integer | fraction | string | array =>
    obtain ⟨part, hpart⟩ := List.exists_mem_of_ne_nil _ hne
    have hmem := h ▸ List.mem_map_of_mem (f := some) hpart
    obtain ⟨name, _, hname⟩ := List.mem_map.mp hmem
    cases hname

end Json

namespace Snapshot

variable {j : Json}

theorem require_eq_ok_iff {α : Type} {x : Option α} {a : α} : require x = .ok a ↔ x = some a := by
  cases x <;> simp [require]

/-! ## Names -/

theorem alternative?_eq_some_iff {name : String} {content : Json} :
    alternative? j = some (name, some content) ↔ j = .object [(name, content)] := by
  unfold alternative?
  grind

theorem plainName?_eq_some_iff {name : String} : plainName? j = some name ↔ j.IsName name := by
  unfold plainName? alternative? Json.IsName
  grind

theorem ofName?_eq_some_iff {name : String} {s : RunState} :
    RunState.ofName? name = some s ↔ s.name = name := by
  constructor
  · intro h
    simpa using List.find?_some h
  · rintro rfl
    cases s <;> decide

theorem readState_eq_ok_iff {s : RunState} : readState j = .ok s ↔ j.IsName s.name := by
  rw [readState, require_eq_ok_iff, Option.bind_eq_some_iff]
  simp only [plainName?_eq_some_iff, ofName?_eq_some_iff]
  constructor
  · rintro ⟨name, hname, rfl⟩
    exact hname
  · intro h
    exact ⟨s.name, h, rfl⟩

/-! ## Instructions -/

def instructionName : Instruction → String
  | .hlt => "Hlt"
  | .ldi .. => "Ldi"
  | .prn _ => "Prn"
  | .mul .. => "Mul"
  | .add .. => "Add"
  | .pop _ => "Pop"
  | .push _ => "Push"
  | .call _ => "Call"
  | .ret => "Ret"

/-- The operands of an instruction with their names in documents. -/
def namedOperands : Instruction → List (String × UInt8)
  | .hlt | .ret => []
  | .ldi reg value => [("reg", reg), ("value", value)]
  | .prn reg | .pop reg | .push reg | .call reg => [("reg", reg)]
  | .mul a b | .add a b => [("a", a), ("b", b)]

/-- A document is the name of an instruction without operands, or an object whose only field has the
name of the instruction and holds the operands. -/
def DescribesInstruction (j : Json) (i : Instruction) : Prop :=
  if namedOperands i = [] then j.IsName (instructionName i)
  else ∃ content, j = .object [(instructionName i, content)] ∧
    ∀ operand ∈ namedOperands i, ∃ part,
      content.field? operand.1 = some part ∧ part.HoldsNumber 256 operand.2.toNat

/-- A document describes the last instruction, or is empty if there is none. -/
def DescribesLast (j : Json) : Option Instruction → Prop
  | none => j = .null
  | some i => DescribesInstruction j i

theorem operand?_eq_some_iff {name : String} {b : UInt8} :
    operand? j name = some b ↔
      ∃ part, j.field? name = some part ∧ part.HoldsNumber 256 b.toNat := by
  rw [operand?, Option.bind_eq_some_iff]
  simp only [Json.byte?_eq_some_iff]

theorem withOperands?_eq_some_iff {name : String} {i : Instruction} :
    withOperands? name j = some i ↔ namedOperands i ≠ [] ∧ name = instructionName i ∧
      ∀ operand ∈ namedOperands i, operand? j operand.1 = some operand.2 := by
  constructor
  · intro h
    unfold withOperands? at h
    split at h
    all_goals
      simp only [Option.bind_eq_bind, Option.bind_eq_some_iff, Option.pure_def, Option.some.injEq,
        reduceCtorEq] at h
    case h_1 | h_3 | h_4 =>
      obtain ⟨a, ha, b, hb, rfl⟩ := h
      simp [namedOperands, instructionName, ha, hb]
    all_goals
      obtain ⟨a, ha, rfl⟩ := h
      simp [namedOperands, instructionName, ha]
  · rintro ⟨hne, rfl, hoperands⟩
    cases i <;> simp_all [namedOperands, instructionName, withOperands?]

theorem instruction?_object {name : String} {content : Json} (h : content ≠ .null) :
    instruction? (.object [(name, content)]) = withOperands? name content := by
  cases content with
  | null => exact absurd rfl h
  | bool | integer | fraction | string | array | object => rfl

theorem readInstruction_eq_ok_iff {i : Instruction} :
    readInstruction j = .ok i ↔ DescribesInstruction j i := by
  rw [readInstruction, require_eq_ok_iff, DescribesInstruction]
  constructor
  · intro h
    unfold instruction? at h
    split at h
    · rename_i hname
      cases h
      exact plainName?_eq_some_iff.mp hname
    · rename_i hname
      cases h
      exact plainName?_eq_some_iff.mp hname
    · split at h
      · rename_i hj
        obtain ⟨hne, rfl, hoperands⟩ := withOperands?_eq_some_iff.mp h
        rw [if_neg hne]
        exact ⟨_, alternative?_eq_some_iff.mp hj, fun operand hmem =>
          operand?_eq_some_iff.mp (hoperands operand hmem)⟩
      · cases h
  · intro h
    split at h
    · rename_i hnone
      rw [← plainName?_eq_some_iff] at h
      cases i with
      | hlt | ret => simp only [instruction?, h, instructionName]
      | ldi | prn | mul | add | pop | push | call => cases hnone
    · rename_i hne
      obtain ⟨content, rfl, hoperands⟩ := h
      -- a name without content is read in another way, but here there is an operand
      have hcontent : content ≠ .null := by
        rintro rfl
        obtain ⟨operand, hmem⟩ := List.exists_mem_of_ne_nil _ hne
        obtain ⟨part, hpart, _⟩ := hoperands operand hmem
        cases hpart
      rw [instruction?_object hcontent, withOperands?_eq_some_iff]
      exact ⟨hne, rfl, fun operand hmem => operand?_eq_some_iff.mpr (hoperands operand hmem)⟩

theorem not_describesInstruction_null {i : Instruction} : ¬DescribesInstruction .null i := by
  unfold DescribesInstruction Json.IsName
  split <;> simp

theorem readLast_eq_ok_iff {last : Option Instruction} :
    readLast j = .ok last ↔ DescribesLast j last := by
  unfold readLast
  split
  · cases last with
    | none => simp [DescribesLast]
    | some i => simpa [DescribesLast] using not_describesInstruction_null
  · rename_i hj
    rw [except_map_eq_ok_iff]
    cases last with
    | none => simpa [DescribesLast] using hj
    | some i => simp [DescribesLast, readInstruction_eq_ok_iff]

/-! ## Registers and memory -/

/-- A document has exactly eight general registers, the counter and the flags. -/
def DescribesRegisters (j : Json) (regs : Registers) : Prop :=
  ∃ r pc fl, j.HasParts ["r", "pc", "fl"] [r, pc, fl] ∧ r.HoldsBytes regs.r ∧
    pc.HoldsNumber 256 regs.pc.toNat ∧ fl.HoldsNumber 256 regs.fl.toNat

theorem general?_eq_some_iff {r : Vector UInt8 8} : general? j = some r ↔ j.HoldsBytes r := by
  rw [general?, Option.bind_eq_some_iff, Json.holdsBytes_iff_eq_ofBytes]
  constructor
  · rintro ⟨values, hvalues, h⟩
    rw [Json.bytes?_eq_some_iff.mp hvalues]
    split at h
    · cases h
      rfl
    · cases h
  · intro h
    refine ⟨r.toList, Json.bytes?_eq_some_iff.mpr h, ?_⟩
    rw [dif_pos r.length_toList, Option.some.injEq, ← Vector.toArray_inj]
    rfl

theorem registersOf?_eq_some_iff {r pc fl : Json} {regs : Registers} :
    registersOf? r pc fl = some regs ↔ r.HoldsBytes regs.r ∧
      pc.HoldsNumber 256 regs.pc.toNat ∧ fl.HoldsNumber 256 regs.fl.toNat := by
  simp only [registersOf?, Option.bind_eq_bind, Option.bind_eq_some_iff, general?_eq_some_iff,
    Json.byte?_eq_some_iff, Option.pure_def, Option.some.injEq]
  constructor
  · rintro ⟨r, hr, pc, hpc, fl, hfl, rfl⟩
    exact ⟨hr, hpc, hfl⟩
  · rintro ⟨hr, hpc, hfl⟩
    exact ⟨_, hr, _, hpc, _, hfl, rfl⟩

theorem readRegisters_eq_ok_iff {regs : Registers} :
    readRegisters j = .ok regs ↔ DescribesRegisters j regs := by
  unfold readRegisters DescribesRegisters
  rw [require_eq_ok_iff]
  constructor
  · intro h
    split at h
    · exact ⟨_, _, _, .inl rfl, registersOf?_eq_some_iff.mp h⟩
    · simp only [Option.bind_eq_bind, Option.bind_eq_some_iff] at h
      obtain ⟨r, hr, pc, hpc, fl, hfl, h⟩ := h
      exact ⟨r, pc, fl, .inr (by simp [hr, hpc, hfl]), registersOf?_eq_some_iff.mp h⟩
    · cases h
  · rintro ⟨r, pc, fl, rfl | hfields, h⟩
    · exact registersOf?_eq_some_iff.mpr h
    · obtain ⟨fields, rfl⟩ := Json.exists_fields hfields (by simp)
      simp only [List.map_cons, List.map_nil, List.cons.injEq, and_true] at hfields
      obtain ⟨hr, hpc, hfl⟩ := hfields
      simp only [hr, hpc, hfl, Option.bind_eq_bind, Option.bind_some]
      exact registersOf?_eq_some_iff.mpr h

theorem readMemory_eq_ok_iff {m : Memory} : readMemory j = .ok m ↔ j.HoldsBytes m.cells := by
  rw [readMemory, except_bind_eq_ok_iff, Json.holdsBytes_iff_eq_ofBytes]
  simp only [require_eq_ok_iff, Json.bytes?_eq_some_iff]
  constructor
  · rintro ⟨cells, rfl, h⟩
    unfold Memory.ofList at h
    split at h
    · cases h
      rfl
    · cases h
  · rintro rfl
    refine ⟨_, rfl, ?_⟩
    rw [Memory.ofList, dif_pos m.cells.length_toList]
    rfl

/-! ## Machines -/

/-- A document has the parts of a machine. That of the last instruction may be missing among the
fields, which stands for an empty one. -/
def HasMachineParts (j regs mem state cycles last : Json) : Prop :=
  j.HasParts ["regs", "mem", "state", "cycles", "last_instr"] [regs, mem, state, cycles, last] ∨
    ["regs", "mem", "state", "cycles"].map j.field? = [regs, mem, state, cycles].map some ∧
      j.field? "last_instr" = none ∧ last = .null

/-- A document describes a machine. -/
def Describes (j : Json) (m : Machine) : Prop :=
  ∃ regs mem state cycles last, HasMachineParts j regs mem state cycles last ∧
    DescribesRegisters regs m.regs ∧ mem.HoldsBytes m.mem.cells ∧ state.IsName m.state.name ∧
      cycles.HoldsNumber UInt64.size m.cycles.toNat ∧ DescribesLast last m.last

theorem readFields_eq_ok_iff {regs mem state cycles last : Json} {m : Machine} :
    readFields regs mem state cycles last = .ok m ↔
      DescribesRegisters regs m.regs ∧ mem.HoldsBytes m.mem.cells ∧ state.IsName m.state.name ∧
        cycles.HoldsNumber UInt64.size m.cycles.toNat ∧ DescribesLast last m.last := by
  simp only [readFields, except_bind_eq_ok_iff, readRegisters_eq_ok_iff, readMemory_eq_ok_iff,
    readState_eq_ok_iff, require_eq_ok_iff, Json.natural?_eq_some_iff, readLast_eq_ok_iff, pure,
    Except.pure, Except.ok.injEq]
  constructor
  · rintro ⟨_, hregs, _, hmem, _, hstate, count, hcycles, _, hlast, rfl⟩
    rw [← UInt64.toNat_ofNat_of_lt' hcycles.1] at hcycles
    exact ⟨hregs, hmem, hstate, hcycles, hlast⟩
  · rintro ⟨hregs, hmem, hstate, hcycles, hlast⟩
    exact ⟨_, hregs, _, hmem, _, hstate, _, hcycles, _, hlast, by rw [UInt64.ofNat_toNat]⟩

theorem readMachine_eq_ok_iff {m : Machine} : readMachine j = .ok m ↔ Describes j m := by
  simp only [Describes, HasMachineParts, Json.HasParts, ← readFields_eq_ok_iff]
  constructor
  · intro h
    unfold readMachine at h
    split at h
    · exact ⟨_, _, _, _, _, .inl (.inl rfl), h⟩
    · simp only [except_bind_eq_ok_iff, require_eq_ok_iff] at h
      obtain ⟨regs, hregs, mem, hmem, state, hstate, cycles, hcycles, h⟩ := h
      refine ⟨regs, mem, state, cycles, _, ?_, h⟩
      cases hlast : Json.field? _ "last_instr" with
      | none => exact .inr ⟨by simp [hregs, hmem, hstate, hcycles], rfl, rfl⟩
      | some last => exact .inl (.inr (by simp [hregs, hmem, hstate, hcycles, hlast]))
    · cases h
  · rintro ⟨regs, mem, state, cycles, last, (rfl | hfields) | ⟨hfields, hnone, rfl⟩, h⟩
    · exact h
    · obtain ⟨fields, rfl⟩ := Json.exists_fields hfields (by simp)
      simp only [List.map_cons, List.map_nil, List.cons.injEq, and_true] at hfields
      obtain ⟨hregs, hmem, hstate, hcycles, hlast⟩ := hfields
      simp only [readMachine, hregs, hmem, hstate, hcycles, hlast]
      exact h
    · obtain ⟨fields, rfl⟩ := Json.exists_fields hfields (by simp)
      simp only [List.map_cons, List.map_nil, List.cons.injEq, and_true] at hfields
      obtain ⟨hregs, hmem, hstate, hcycles⟩ := hfields
      simp only [readMachine, hregs, hmem, hstate, hcycles, hnone]
      exact h

end Snapshot

end Ls8
