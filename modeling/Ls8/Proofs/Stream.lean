import Ls8.Proofs.Decoding

/-!
# Instructions in a row

The first byte of an instruction says how long it is, so bytes can be read from left to right,
instruction after instruction. `uniquely_decodable`: what is read like that are exactly the encodings
of instructions on existing registers, so bytes and instructions determine each other. One
instruction too long or too short would put all that follow out of step; that none is comes from
`read?_eq_some_iff`, on the first one alone.
-/

namespace Ls8.Instruction

/-- The bytes of instructions in a row. -/
def encodeAll (is : List Instruction) : List UInt8 :=
  is.flatMap encode

/-- The instruction at the front of some bytes, and the bytes behind it. There is none if the front
does not decode or if the bytes end before the instruction does; bytes behind the end count as
zero. -/
def read? : List UInt8 → Option (Instruction × List UInt8)
  | [] => none
  | ir :: rest =>
    match decode ir (rest.getD 0 0) (rest.getD 1 0) with
    | .error _ => none
    | .ok i =>
      if (instructionLength ir).toNat ≤ (ir :: rest).length then
        some (i, (ir :: rest).drop (instructionLength ir).toNat)
      else none

/-- `n` instructions, read from left to right, and the bytes behind them. -/
def readMany? : Nat → List UInt8 → Option (List Instruction × List UInt8)
  | 0, bytes => some ([], bytes)
  | n + 1, bytes => do
    let (i, behind) ← read? bytes
    let (is, rest) ← readMany? n behind
    return (i :: is, rest)

variable {i : Instruction} {bytes rest : List UInt8} {ir : UInt8}

/-! ## One instruction -/

theorem take_supplied {n : Nat} (hn : n ≤ 3) (hlength : n ≤ (ir :: rest).length) :
    [ir, rest.getD 0 0, rest.getD 1 0].take n = (ir :: rest).take n := by
  match n, rest with
  | 0, _ => rfl
  | 1, _ => rfl
  | 2, x :: _ => rfl
  | 3, x :: y :: _ => rfl
  | 2, [] => simp at hlength
  | 3, [] => simp at hlength
  | 3, [x] => simp at hlength

theorem decode_supplied_iff (hlength : i.encode.length ≤ (ir :: rest).length) :
    decode ir (rest.getD 0 0) (rest.getD 1 0) = .ok i ↔
      i.encode <+: ir :: rest ∧ ∀ r ∈ i.registers, r < 8 := by
  rw [decode_eq_ok_iff, List.prefix_iff_eq_take, List.prefix_iff_eq_take,
    take_supplied i.length_encode_le hlength]

theorem length_encode_of_decode {a b : UInt8} (h : decode ir a b = .ok i) :
    i.encode.length = (instructionLength ir).toNat := by
  have hprefix := (decode_eq_ok_iff.mp h).1
  have hfirst : i.opcode.byte = ir := (List.cons_prefix_cons.mp hprefix).1
  rw [length_encode, hfirst]

/-- **One instruction** is read exactly where its bytes are in front and its registers exist. -/
theorem read?_eq_some_iff :
    read? bytes = some (i, rest) ↔ bytes = i.encode ++ rest ∧ ∀ r ∈ i.registers, r < 8 := by
  constructor
  · intro h
    cases bytes with
    | nil => cases h
    | cons ir behind =>
      rw [read?] at h
      split at h
      · cases h
      · rename_i j hdecode
        split at h
        · rename_i hlength
          obtain ⟨rfl, rfl⟩ := Prod.mk.inj (Option.some.inj h)
          rw [← length_encode_of_decode hdecode] at hlength ⊢
          obtain ⟨hfront, hregisters⟩ := (decode_supplied_iff hlength).mp hdecode
          obtain ⟨tail, htail⟩ := hfront
          rw [← htail, List.drop_left]
          exact ⟨rfl, hregisters⟩
        · cases h
  · rintro ⟨rfl, hregisters⟩
    have hlength : i.encode.length ≤ (i.opcode.byte :: (i.operands ++ rest)).length := by
      simp [encode]
    have hdecode : decode i.opcode.byte ((i.operands ++ rest).getD 0 0)
        ((i.operands ++ rest).getD 1 0) = .ok i :=
      (decode_supplied_iff hlength).mpr ⟨List.prefix_append i.encode rest, hregisters⟩
    rw [length_encode_of_decode hdecode] at hlength
    have hdrop : (i.opcode.byte :: (i.operands ++ rest)).drop
        (instructionLength i.opcode.byte).toNat = rest := by
      rw [← length_encode i]
      exact List.drop_left
    rw [encode, List.cons_append, read?, hdecode]
    simp only [if_pos hlength, hdrop]

/-! ## Many instructions -/

theorem readMany?_succ_eq_some_iff {n : Nat} {is : List Instruction} :
    readMany? (n + 1) bytes = some (is, rest) ↔
      ∃ i js behind, is = i :: js ∧ read? bytes = some (i, behind) ∧
        readMany? n behind = some (js, rest) := by
  constructor
  · intro h
    obtain ⟨⟨i, behind⟩, hfirst, h⟩ := Option.bind_eq_some_iff.mp h
    obtain ⟨⟨js, rest⟩, hmore, h⟩ := Option.bind_eq_some_iff.mp h
    cases h
    exact ⟨i, js, behind, rfl, hfirst, hmore⟩
  · rintro ⟨i, js, behind, rfl, hfirst, hmore⟩
    simp only [readMany?, hfirst, hmore, Option.bind_eq_bind, Option.bind_some]
    rfl

/-- **Instructions in a row are uniquely decodable.** Reading the encodings of instructions on
existing registers from left to right gives exactly these instructions and ends at the first byte
behind them, whatever follows. And bytes that can be read like that, to their end or to some place
before it, are the encodings of what is read, up to that place. -/
theorem uniquely_decodable (n : Nat) (bytes : List UInt8) (is : List Instruction)
    (rest : List UInt8) :
    readMany? n bytes = some (is, rest) ↔
      is.length = n ∧ (∀ i ∈ is, ∀ r ∈ i.registers, r < 8) ∧ bytes = encodeAll is ++ rest := by
  induction n generalizing bytes is with
  | zero =>
    rw [readMany?]
    constructor
    · intro h
      cases h
      exact ⟨rfl, List.forall_mem_nil _, rfl⟩
    · rintro ⟨hlength, _, rfl⟩
      rw [List.length_eq_zero_iff.mp hlength]
      rfl
  | succ n ih =>
    rw [readMany?_succ_eq_some_iff]
    constructor
    · rintro ⟨i, js, behind, rfl, hfirst, hmore⟩
      obtain ⟨hbytes, hi⟩ := read?_eq_some_iff.mp hfirst
      obtain ⟨hlength, hjs, hbehind⟩ := (ih behind js).mp hmore
      refine ⟨congrArg (· + 1) hlength, List.forall_mem_cons.mpr ⟨hi, hjs⟩, ?_⟩
      rw [hbytes, hbehind, encodeAll, encodeAll, List.flatMap_cons, List.append_assoc]
    · rintro ⟨hlength, hregisters, hbytes⟩
      obtain ⟨i, js, rfl⟩ := List.exists_cons_of_length_eq_add_one hlength
      obtain ⟨hi, hjs⟩ := List.forall_mem_cons.mp hregisters
      rw [encodeAll, List.flatMap_cons, List.append_assoc] at hbytes
      exact ⟨i, js, _, rfl, read?_eq_some_iff.mpr ⟨hbytes, hi⟩,
        (ih _ js).mpr ⟨Nat.succ.inj hlength, hjs, rfl⟩⟩

example :
    readMany? 3 [0x82, 7, 8, 0x47, 7, 0x01, 0x47] = some ([.ldi 7 8, .prn 7, .hlt], [0x47]) := by
  decide

end Ls8.Instruction
