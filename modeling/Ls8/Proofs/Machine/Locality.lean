import Mathlib.Data.Set.Defs
import Ls8.Proofs.Listing.Walk
import Ls8.Proofs.Machine.Failure

/-!
# What execution depends on

Both operand bytes are fetched for every opcode, but only as many of them matter as belong to the
instruction. So a step depends on the run state, the counter, the general registers, and the cells
that it `reads`. Two machines that `Agree` on these do the same: they return and print the same,
write the same, and agree again (`Agree.step`). `reads_determine_steps` says so of any number of
steps, whether they succeed or fail.
-/

namespace Ls8

/-- The instruction takes a byte off the stack. -/
def Instruction.pops : Instruction → Bool
  | pop _ | ret => true
  | _ => false

theorem Registers.r_update {regs regs' : Registers} (h : regs'.r = regs.r) (index value : UInt8) :
    (regs'.update index value).r = (regs.update index value).r := by
  rcases Nat.lt_or_ge index.toNat 8 with h8 | h8
  · rw [update_of_lt h8, update_of_lt h8, h]
  · rw [update_of_le h8, update_of_le h8, h]

namespace Machine

/-! ## Cells read and written -/

/-- The cells of the instruction at the counter; just one if the byte there has no name. -/
def instructionCells (m : Machine) : List UInt8 :=
  (List.range (Listing.coverage m.opcodeByte).toNat).map fun k => m.regs.pc + UInt8.ofNat k

/-- The cells that a step reads: those of the instruction, and the top of the stack if the
instruction takes it off. -/
def reads (m : Machine) : List UInt8 :=
  if m.state = .running then
    m.instructionCells ++
      match m.fetch with
      | .ok i => if i.pops then [m.regs.sp] else []
      | .error _ => []
  else []

/-- The cell that a step writes, if it does, and the byte that it writes there. -/
def writes? (m : Machine) : Option (UInt8 × UInt8) :=
  if m.state = .running then
    match m.fetch with
    | .ok i => (m.pushed? i).map fun value => (m.regs.sp - 1, value)
    | .error _ => none
  else none

/-- Machine and sink after `n` steps, whatever these return. -/
def afterSteps : Nat → Machine → Sink → Machine × Sink
  | 0, m, out => (m, out)
  | n + 1, m, out =>
    let before := afterSteps n m out
    let o := before.1.step before.2
    (o.machine, o.sink)

/-- The machines have the same general registers, counter and run state, and the same bytes in the
cells of `S`. -/
structure Agree (S : Set UInt8) (m m' : Machine) : Prop where
  r : m'.regs.r = m.regs.r
  pc : m'.regs.pc = m.regs.pc
  state : m'.state = m.state
  mem : ∀ a ∈ S, m'.mem.read a = m.mem.read a

variable {S : Set UInt8} {m m' : Machine} {i : Instruction} {out out' : Sink}

namespace Agree

/-! ## Parts of a step -/

theorem value (h : Agree S m m') (reg : UInt8) : m'.regs.value reg = m.regs.value reg :=
  Registers.value_congr h.r reg

theorem sp (h : Agree S m m') : m'.regs.sp = m.regs.sp := by
  rw [Registers.sp, h.r]
  rfl

theorem printed (h : Agree S m m') (i : Instruction) : m'.printed i = m.printed i := by
  cases i with
  | prn reg =>
    rw [Machine.printed, Registers.get?, h.r]
    rfl
  | _ => rfl

theorem pushed? (h : Agree S m m') (i : Instruction) : m'.pushed? i = m.pushed? i := by
  cases i with
  | push reg => exact congrArg some (h.value reg)
  | call reg => exact congrArg (fun pc => some (pc + 2)) h.pc
  | _ => rfl

theorem fail (h : Agree S m m') : Agree S m.fail m'.fail :=
  ⟨h.r, h.pc, rfl, h.mem⟩

theorem update (h : Agree S m m') (reg v : UInt8) :
    Agree S { m with regs := m.regs.update reg v } { m' with regs := m'.regs.update reg v } := by
  refine ⟨Registers.r_update h.r reg v, ?_, h.state, h.mem⟩
  simp only [Registers.pc_update]
  exact h.pc

theorem jump (h : Agree S m m') (address : UInt8) : Agree S (m.jump address) (m'.jump address) :=
  ⟨h.r, rfl, h.state, h.mem⟩

theorem drop (h : Agree S m m') : Agree S m.drop m'.drop := by
  refine ⟨?_, h.pc, h.state, h.mem⟩
  simp only [Machine.drop, Registers.setSp, h.sp, h.r]

theorem push (h : Agree S m m') (v : UInt8) : Agree S (m.push v) (m'.push v) := by
  refine ⟨?_, h.pc, h.state, fun a ha => ?_⟩
  · simp only [Machine.push, Registers.setSp, h.sp, h.r]
  · simp only [Machine.push, h.sp, Memory.read_write]
    rw [h.mem a ha]

theorem effect (h : Agree S m m') (hstack : i.pops → m.regs.sp ∈ S) :
    Agree S (m.effect i) (m'.effect i) := by
  have htop (hpops : i.pops) : m'.top = m.top := by
    rw [top, h.sp, h.mem _ (hstack hpops)]
    rfl
  cases i with
  | hlt => exact ⟨h.r, h.pc, rfl, h.mem⟩
  | ldi reg v => exact h.update reg v
  | prn reg => exact h
  | mul a b =>
    rw [Machine.effect, Machine.effect, h.value, h.value]
    exact h.update a _
  | add a b =>
    rw [Machine.effect, Machine.effect, h.value, h.value]
    exact h.update a _
  | pop reg =>
    rw [Machine.effect, Machine.effect, htop rfl]
    exact h.drop.update reg m.top
  | push reg =>
    rw [Machine.effect, Machine.effect, h.value]
    exact h.push _
  | call reg =>
    rw [Machine.effect, Machine.effect, h.pc, (h.push _).value]
    exact (h.push _).jump _
  | ret =>
    rw [Machine.effect, Machine.effect, htop rfl]
    exact h.drop.jump m.top

theorem next (h : Agree S m m') (hstack : i.pops → m.regs.sp ∈ S) :
    Agree S (m.next i) (m'.next i) := by
  have heffect := h.effect hstack
  rw [Machine.next, Machine.next, proceed, proceed]
  split
  · exact ⟨heffect.r, heffect.pc, heffect.state, heffect.mem⟩
  · exact ⟨heffect.r, congrArg (· + _) heffect.pc, heffect.state, heffect.mem⟩

/-! ## A step -/

theorem fetch (h : Agree S m m') (hcells : ∀ a ∈ m.instructionCells, a ∈ S) :
    m'.fetch = m.fetch := by
  have hread : ∀ k < (Listing.coverage m.opcodeByte).toNat,
      m'.mem.read (m.regs.pc + UInt8.ofNat k) = m.mem.read (m.regs.pc + UInt8.ofNat k) :=
    fun k hk => h.mem _ (hcells _ (List.mem_map.mpr ⟨k, List.mem_range.mpr hk, rfl⟩))
  have hopcode : m'.mem.read m.regs.pc = m.mem.read m.regs.pc := by
    simpa using hread 0 (Listing.coverage_pos _)
  rw [Machine.fetch, opcodeByte, h.pc, hopcode]
  exact Listing.decode_congr (Listing.covered_congr hread)

theorem fetch_of_reads (h : Agree S m m') (hs : m.state = .running)
    (hreads : ∀ a ∈ m.reads, a ∈ S) : m'.fetch = m.fetch := by
  rw [reads, if_pos hs] at hreads
  exact h.fetch fun a ha => hreads a (List.mem_append_left _ ha)

theorem stack_of_reads (hs : m.state = .running) (hf : m.fetch = .ok i)
    (hreads : ∀ a ∈ m.reads, a ∈ S) (hpops : i.pops) : m.regs.sp ∈ S := by
  apply hreads
  rw [reads, if_pos hs, hf]
  simp [hpops]

theorem writes? (h : Agree S m m') (hreads : ∀ a ∈ m.reads, a ∈ S) :
    m'.writes? = m.writes? := by
  rw [Machine.writes?, Machine.writes?, h.state]
  by_cases hs : m.state = .running
  · rw [if_pos hs, if_pos hs, h.fetch_of_reads hs hreads]
    cases m.fetch with
    | error cause => rfl
    | ok i => simp only [h.pushed?, h.sp]
  · rw [if_neg hs, if_neg hs]

/-- Machines that agree on what one of them reads take the same step. -/
theorem step (h : Agree S m m') (hreads : ∀ a ∈ m.reads, a ∈ S) (hout : out.room = none)
    (hout' : out'.room = none) :
    Agree S (m.step out).machine (m'.step out').machine ∧
      (m'.step out').result = (m.step out).result ∧
      ∃ text, (m.step out).sink = out.accept text ∧ (m'.step out').sink = out'.accept text := by
  by_cases hs : m.state = .running
  · have hs' : m'.state = .running := h.state.trans hs
    cases hf : m.fetch with
    | error cause =>
      have hf' : m'.fetch = .error cause := (h.fetch_of_reads hs hreads).trans hf
      rw [step_of_fetch_error hs hf, step_of_fetch_error hs' hf', h.pc]
      exact ⟨h.fail, rfl, [], Sink.accept_nil.symm, Sink.accept_nil.symm⟩
    | ok i =>
      have hf' : m'.fetch = .ok i := (h.fetch_of_reads hs hreads).trans hf
      rw [step_of_room_none hs hf hout, step_of_room_none hs' hf' hout', h.printed]
      exact ⟨h.next (stack_of_reads hs hf hreads), rfl, m.printed i, rfl, rfl⟩
  · have hs' : m'.state ≠ .running := fun hrunning => hs (h.state.symm.trans hrunning)
    rw [step_of_stopped hs, step_of_stopped hs', h.state]
    exact ⟨h, rfl, [], Sink.accept_nil.symm, Sink.accept_nil.symm⟩

end Agree

theorem step_mem (hout : out.room = none) :
    (m.step out).machine.mem =
      m.writes?.elim m.mem fun written => m.mem.write written.1 written.2 := by
  by_cases hs : m.state = .running
  · rw [writes?, if_pos hs]
    cases hf : m.fetch with
    | error cause =>
      rw [step_of_fetch_error hs hf]
      rfl
    | ok i =>
      rw [step_of_room_none hs hf hout, next_mem, Option.elim_map]
      rfl
  · rw [writes?, if_neg hs, step_of_stopped hs]
    rfl

/-! ## Any number of steps -/

theorem Agree.afterSteps (h : Agree S m m') (hout : out.room = none) (hout' : out'.room = none)
    {n : Nat} (hreads : ∀ k < n, ∀ a ∈ (afterSteps k m out).1.reads, a ∈ S) :
    Agree S (afterSteps n m out).1 (afterSteps n m' out').1 ∧
      ∃ text, (afterSteps n m out).2 = out.accept text ∧
        (afterSteps n m' out').2 = out'.accept text := by
  induction n with
  | zero => exact ⟨h, [], Sink.accept_nil.symm, Sink.accept_nil.symm⟩
  | succ n ih =>
    obtain ⟨hagree, text, hsink, hsink'⟩ := ih fun k hk => hreads k (Nat.lt_succ_of_lt hk)
    have hroom : (Machine.afterSteps n m out).2.room = none :=
      hsink ▸ Sink.accept_room_none hout text
    have hroom' : (Machine.afterSteps n m' out').2.room = none :=
      hsink' ▸ Sink.accept_room_none hout' text
    obtain ⟨hnext, _, more, hmore, hmore'⟩ :=
      hagree.step (hreads n (Nat.lt_succ_self n)) hroom hroom'
    refine ⟨hnext, text ++ more, ?_, ?_⟩
    · rw [Sink.accept_append, ← hsink]
      exact hmore
    · rw [Sink.accept_append, ← hsink']
      exact hmore'

/-- **Execution depends only on what it reads.** Let two machines have the same general registers,
counter and run state and the same bytes in the cells of `S`, and let the first `n` steps of one of
them read no cell outside `S`. Then before sinks that never refuse, every one of these steps of the
other machine returns the same instruction or error and writes the same byte to the same cell. After
every step the machines agree again, and the sinks have taken the same text.

The bytes that an instruction reads are those of its own length: decoding does not look further. -/
theorem reads_determine_steps {n : Nat} (h : Agree S m m') (hout : out.room = none)
    (hout' : out'.room = none) (hreads : ∀ k < n, ∀ a ∈ (afterSteps k m out).1.reads, a ∈ S) :
    (∀ k ≤ n, Agree S (afterSteps k m out).1 (afterSteps k m' out').1 ∧
      ∃ text : List UInt8, (afterSteps k m out).2.taken.toList = out.taken.toList ++ text ∧
        (afterSteps k m' out').2.taken.toList = out'.taken.toList ++ text) ∧
    (∀ k < n,
      let before := afterSteps k m out
      let before' := afterSteps k m' out'
      (before'.1.step before'.2).result = (before.1.step before.2).result ∧
      before'.1.writes? = before.1.writes? ∧
      (afterSteps (k + 1) m out).1.mem = before.1.writes?.elim before.1.mem
        (fun written => before.1.mem.write written.1 written.2) ∧
      (afterSteps (k + 1) m' out').1.mem = before.1.writes?.elim before'.1.mem
        (fun written => before'.1.mem.write written.1 written.2)) ∧
    ∀ ir a b a' b',
      let length := (Listing.coverage ir).toNat
      [ir, a, b].take length = [ir, a', b'].take length →
        Instruction.decode ir a b = Instruction.decode ir a' b' := by
  have hafter (k : Nat) (hk : k ≤ n) :=
    h.afterSteps hout hout' fun j hj => hreads j (Nat.lt_of_lt_of_le hj hk)
  refine ⟨fun k hk => ?_, fun k hk => ?_, fun ir a b a' b' => Listing.decode_congr⟩
  · obtain ⟨hagree, text, hsink, hsink'⟩ := hafter k hk
    refine ⟨hagree, text, ?_, ?_⟩
    · rw [hsink, Sink.accept_of_room_none hout]
      simp
    · rw [hsink', Sink.accept_of_room_none hout']
      simp
  · intro before before'
    obtain ⟨hagree, text, hsink, hsink'⟩ := hafter k (Nat.le_of_lt hk)
    have hroom : before.2.room = none := hsink ▸ Sink.accept_room_none hout text
    have hroom' : before'.2.room = none := hsink' ▸ Sink.accept_room_none hout' text
    have hwrites : before'.1.writes? = before.1.writes? := hagree.writes? (hreads k hk)
    obtain ⟨_, hresult, _⟩ := hagree.step (hreads k hk) hroom hroom'
    refine ⟨hresult, hwrites, step_mem hroom, ?_⟩
    rw [← hwrites]
    exact step_mem hroom'

/-- A program that pushes and pops, and a machine that differs in the flags, the count, the last
instruction and the byte behind the halt, which is fetched with it. -/
theorem reads_determine_steps_behind_halt :
    let m := withProgram [0x82, 0, 8, 0x45, 0, 0x46, 1, 0x47, 1, 0x01]
    let m' : Machine :=
      { m with regs := { m.regs with fl := 1 }, mem := m.mem.write 10 0xFF, cycles := 9,
               last := some .ret }
    let S : Set UInt8 := fun a => a < 10 ∨ a = 0xF3
    let after := afterSteps 6 m' .unlimited
    Agree S m m' ∧ (∀ k < 6, ∀ a ∈ (afterSteps k m .unlimited).1.reads, a ∈ S) ∧
      after.1.state = .halted ∧ after.2.taken.toList = [0x38, 0x0A] := by
  intro m m' S after
  have hagree : Agree S m m' := by
    refine ⟨rfl, rfl, rfl, fun a ha => ?_⟩
    have hbehind : ¬((10 : UInt8) < 10 ∨ (10 : UInt8) = 0xF3) := by decide
    have hne : a ≠ 10 := by
      rintro rfl
      exact hbehind ha
    exact (Memory.read_write m.mem 10 a 0xFF).trans (if_neg hne)
  have hreads : ∀ k < 6, ∀ a ∈ (afterSteps k m .unlimited).1.reads, a < 10 ∨ a = 0xF3 := by
    decide +kernel
  have hout : Sink.unlimited.room = none := rfl
  obtain ⟨hafter, _⟩ := reads_determine_steps hagree hout hout hreads
  obtain ⟨hsame, text, htext, htext'⟩ := hafter 6 (Nat.le_refl 6)
  have hprinted : (afterSteps 6 m .unlimited).2.taken.toList = [0x38, 0x0A] := by decide +kernel
  refine ⟨hagree, hreads, hsame.state.trans (by decide +kernel), ?_⟩
  rw [htext', ← htext, hprinted]

end Machine

end Ls8
