import Mathlib.Control.Monad.Basic
import Ls8.Debugger.Basic
import Ls8.Proofs.Listing.Walk
import Ls8.Proofs.Machine.Trace

/-!
# The listing tells what comes next

The debugger lists memory from the counter on, before anything is executed. Execution goes another
way: it fetches and decodes one instruction at a time, from memory that the instructions before may
have written to. `listing_predicts`: as long as no instruction jumps, and none writes a byte that
the listing shows further down, the machine visits what is listed, entry by entry, and where it
finds no instruction the entry says why.

The two ways meet in `walk_of_trace`, by induction along the trace: a walk from the counter is the
entry of the instruction there and a walk from behind it, and what the instruction writes does not
change the latter.
-/

namespace Ls8

open Listing (IsBadRegister IsUnimplemented Spot dataText spot walk)

namespace Machine

variable {m last : Machine} {i : Instruction} {is : List Instruction} {out written : Sink}

/-- The cell that a visited instruction wrote: the top of the stack after it. -/
def Visit.written? (v : Visit) : Option UInt8 :=
  match v.instruction with
  | .push _ | .call _ => some v.registers.sp
  | _ => none

/-- A visited instruction as an entry of a listing. -/
def Visit.spot (v : Visit) : Spot :=
  ⟨v.address, v.instruction.text, instructionLength v.instruction.opcode.byte⟩

/-! ## One instruction -/

theorem spot_of_fetch (h : m.fetch = .ok i) :
    spot m.mem m.regs.pc = ⟨m.regs.pc, i.text, instructionLength i.opcode.byte⟩ := by
  have hopcode : i.opcode.byte = m.mem.read m.regs.pc :=
    (List.cons_prefix_cons.mp (fetch_eq_ok_iff.mp h).1).1
  have hdecode : Instruction.decode (m.mem.read m.regs.pc) (m.mem.readOffset m.regs.pc 1)
      (m.mem.readOffset m.regs.pc 2) = .ok i := h
  simp only [spot, Listing.text, hdecode]
  rw [← hopcode, Listing.coverage_byte]

theorem walk_next {address : UInt8} {n : Nat} (h : i.setsCounter = false)
    (hmiss : ∀ a ∈ Visit.written? ⟨m.regs.pc, i, (m.next i).regs⟩,
      ∀ e ∈ walk m.mem address n, ¬e.Covers a) :
    walk (m.next i).mem address n = walk m.mem address n := by
  rw [next_mem]
  cases i with
  | push reg =>
    have hsp : (m.next (.push reg)).regs.sp = m.regs.sp - 1 :=
      next_sp (by simp [Instruction.destination?])
    have hmiss' : ∀ e ∈ walk m.mem address n, ¬e.Covers (m.regs.sp - 1) := by
      rw [← hsp]
      exact hmiss _ rfl
    exact Listing.walk_write hmiss'
  | call reg => cases h
  | hlt | ldi | prn | mul | add | pop | ret => rfl

/-! ## A trace -/

/-- No visited instruction wrote a byte that an entry after its own covers. -/
def Spares (visits : List Visit) (entries : List Spot) : Prop :=
  ∀ k (hk : k < visits.length), ∀ a ∈ visits[k].written?,
    ∀ e ∈ entries.drop (k + 1), ¬e.Covers a

instance (visits : List Visit) (entries : List Spot) : Decidable (Spares visits entries) :=
  inferInstanceAs (Decidable (∀ k (hk : k < visits.length), ∀ a ∈ visits[k].written?,
    ∀ e ∈ entries.drop (k + 1), ¬e.Covers a))

theorem spares_cons_iff {v : Visit} {visits : List Visit} {e : Spot} {entries : List Spot} :
    Spares (v :: visits) (e :: entries) ↔
      (∀ a ∈ v.written?, ∀ e ∈ entries, ¬e.Covers a) ∧ Spares visits entries := by
  constructor
  · intro h
    refine ⟨h 0 (by simp), fun k hk => h (k + 1) (by simpa using hk)⟩
  · rintro ⟨hfirst, hrest⟩ k hk
    cases k with
    | zero => exact hfirst
    | succ k => exact hrest k (by simpa using hk)

/-- A walk taken before some instructions are executed shows them one after the other, and then what
is at the counter after them. -/
theorem walk_of_trace (h : Trace m out is last written)
    (hstraight : ∀ i ∈ is, i.setsCounter = false)
    (hspares : Spares (m.visits is) (walk m.mem m.regs.pc (is.length + 1))) :
    walk m.mem m.regs.pc (is.length + 1) =
      (m.visits is).map Visit.spot ++ [spot last.mem last.regs.pc] := by
  induction h with
  | nil m out => rfl
  | @cons m middle last out _ written i is hstep _ ih =>
    obtain ⟨_, hf, _, _, rfl⟩ := step_eq_ok_iff.mp hstep
    obtain ⟨hi, his⟩ := List.forall_mem_cons.mp hstraight
    have hspot := spot_of_fetch hf
    have hwalk : walk m.mem m.regs.pc (is.length + 1 + 1) =
        spot m.mem m.regs.pc :: walk m.mem (m.next i).regs.pc (is.length + 1) := by
      rw [walk, hspot, next_pc hi]
    rw [List.length_cons, hwalk, visits, spares_cons_iff] at hspares
    obtain ⟨hfirst, hrest⟩ := hspares
    rw [← walk_next hi hfirst] at hrest
    rw [List.length_cons, hwalk, visits, ← walk_next hi hfirst, ih his hrest, hspot]
    rfl

end Machine

namespace Debugger

open Machine (Spares Visit)

/-- **The listing tells what comes next.** Let `n` steps succeed, none of them a call or a return,
and none of them write a byte that an entry below its own covers. Then a listing of one entry more,
taken before the steps, shows the instructions that were executed, each at its address and with its
text. The last entry is at the counter where the steps have led. If one more step succeeds, whatever
its kind, the entry has the text of its instruction. If there is no instruction, the entry shows a
byte without a name, an opcode without a rule or a register that does not exist exactly where that
is the cause. -/
theorem listing_predicts {d : Debugger} {n : Nat} {out written : Sink} {last : Machine}
    {visits : Array Visit}
    (hsteps : d.machine.traceFor n out #[] = (⟨last, written, .ok ()⟩, visits))
    (hstraight : ∀ v ∈ visits.toList, v.instruction.setsCounter = false)
    (hspares : Spares visits.toList (d.listing (n + 1))) :
    visits.size = n ∧
    ∃ e, d.listing (n + 1) = visits.toList.map Visit.spot ++ [e] ∧
      (∀ after sink i, last.step written = ⟨after, sink, .ok i⟩ →
        e.address = last.regs.pc ∧ e.text = i.text) ∧
      ∀ after sink address cause,
        last.step written = ⟨after, sink, .error (.decode address cause)⟩ →
          e.address = address ∧ address = last.regs.pc ∧
          (e.text = dataText (last.mem.read address) ↔ ∃ byte, cause = .unrecognized byte) ∧
          (IsUnimplemented e.text ↔ ∃ op, cause = .unimplemented op) ∧
          (IsBadRegister e.text ↔ ∃ op r, cause = .invalidRegister op r) := by
  obtain ⟨is, rfl, htrace, hvisits⟩ := Machine.exists_trace_of_traceFor hsteps
  rw [List.nil_append] at hvisits
  rw [hvisits] at hstraight hspares
  have hinstructions := Machine.map_instruction_visits d.machine is
  have hsize : visits.size = is.length := by
    rw [← Array.length_toList, hvisits, ← List.length_map, hinstructions]
  have his : ∀ i ∈ is, i.setsCounter = false := by
    intro i hi
    rw [← hinstructions] at hi
    obtain ⟨v, hv, rfl⟩ := List.mem_map.mp hi
    exact hstraight v hv
  refine ⟨hsize, spot last.mem last.regs.pc, ?_, ?_, ?_⟩
  · rw [hvisits]
    exact Machine.walk_of_trace htrace his hspares
  · intro after sink i hstep
    obtain ⟨_, hf, _⟩ := Machine.step_eq_ok_iff.mp hstep
    rw [Machine.spot_of_fetch hf]
    exact ⟨rfl, rfl⟩
  · intro after sink address cause hstep
    obtain ⟨hf, rfl⟩ := Machine.step_eq_decode hstep
    exact ⟨rfl, rfl, Listing.text_eq_dataText_iff hf, Listing.isUnimplemented_text_iff hf,
      Listing.isBadRegister_iff hf⟩

/-- Code across the end of memory that pushes onto its own first instruction and runs into a
register that does not exist. -/
theorem listing_predicts_bad_register :
    let m : Machine :=
      { Machine.initial with
        regs := ⟨#v[0, 0, 0, 0, 0, 0, 0, 1], 0xFE, 0⟩
        mem := Memory.zero.writeFrom 0xFE [0x82, 0, 8, 0x45, 0, 0x47, 9] }
    let d : Debugger := { start [] with session := ⟨[], m, #[]⟩ }
    let o := (m.traceFor 2 .unlimited #[]).1
    let visits := (m.traceFor 2 .unlimited #[]).2
    o.result = .ok () ∧ (∀ v ∈ visits.toList, v.instruction.setsCounter = false) ∧
      Spares visits.toList (d.listing 3) ∧
      ∃ e, d.listing 3 = [⟨0xFE, "LDI R0,8", 3⟩, ⟨1, "PUSH R0", 2⟩, e] ∧ e.address = 3 ∧
        IsBadRegister e.text := by
  intro m d o visits
  have hresult : o.result = .ok () := by decide +kernel
  have ho : o = ⟨o.machine, o.sink, .ok ()⟩ := by
    rw [← hresult]
  have hsteps : d.machine.traceFor 2 .unlimited #[] = (⟨o.machine, o.sink, .ok ()⟩, visits) :=
    Prod.ext ho rfl
  have hstraight : ∀ v ∈ visits.toList, v.instruction.setsCounter = false := by decide +kernel
  have hspares : Spares visits.toList (d.listing 3) := by decide +kernel
  have hstep : o.machine.step o.sink =
      ⟨o.machine.fail, o.sink, .error (.decode 3 (.invalidRegister .prn 9))⟩ :=
    Machine.step_eq_error_iff.mpr <| .inr ⟨by decide +kernel, rfl, .inl
      ⟨.invalidRegister .prn 9, by decide +kernel, rfl, by decide +kernel⟩⟩
  have hvisits : visits.toList.map Visit.spot = [⟨0xFE, "LDI R0,8", 3⟩, ⟨1, "PUSH R0", 2⟩] := by
    decide +kernel
  obtain ⟨_, e, hlisting, _, hfails⟩ := listing_predicts hsteps hstraight hspares
  obtain ⟨haddress, _, _, _, hregister⟩ := hfails _ _ _ _ hstep
  rw [hvisits] at hlisting
  exact ⟨hresult, hstraight, hspares, e, hlisting, haddress, hregister.mpr ⟨_, _, rfl⟩⟩

end Debugger

end Ls8
