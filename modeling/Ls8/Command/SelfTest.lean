import Ls8.Assembly.Program
import Ls8.Command.Execution

/-!
# The built-in self-test

Six small programs, each with what it must print or how it must end.
-/

namespace Ls8.SelfTest

open Numeral (decimal hex)

structure Check where
  name : String
  passed : Bool
  /-- What to show if it failed. -/
  detail : String

structure Trial where
  machine : Machine
  result : Except StepError Unit
  output : String

/-- Runs a program, but not for ever. -/
def attempt (program : List UInt8) : Trial :=
  let o := (Machine.withProgram program).runFor 10000 .unlimited
  ⟨o.machine, o.result, String.ofList (Utf8.decodeLossy o.sink.taken.toList)⟩

/-- What a program printed, in quotes. -/
def Trial.got (t : Trial) : String :=
  "got " ++ Json.quote t.output

def check (name : String) (program : List UInt8) (passed : Trial → Bool)
    (detail : Trial → String) : Check :=
  let t := attempt program
  ⟨name, passed t, detail t⟩

/-- A test of a program in assembly text. -/
def assembled (name title source : String) (passed : Trial → Bool) (detail : Trial → String) :
    Check :=
  match assemble source with
  | .ok program => check name program passed detail
  | .error e => ⟨name, false, title ++ " failed to assemble: " ++ e.message⟩

def prints (text : String) (t : Trial) : Bool :=
  t.output == text

/-- The program ended by an instruction without a rule. -/
def endsUnrecognized (t : Trial) : Bool :=
  match t.result with
  | .error e => e.isUnrecognized && !t.machine.isRunning
  | .ok () => false

def checks : List Check :=
  [check "LDI/PRN/HLT" ([.ldi 0 8, .prn 0, .hlt].flatMap Instruction.encode)
      (fun t => t.machine.isHalted && prints "8\n" t) Trial.got,
    assembled "ADD wraps modulo 256" "ADD" "LDI R0,200\nLDI R1,100\nADD R0,R1\nPRN R0\nHLT"
      (prints "44\n") Trial.got,
    assembled "MUL" "MUL" "LDI R0,8\nLDI R1,9\nMUL R0,R1\nPRN R0\nHLT" (prints "72\n")
      Trial.got,
    assembled "PUSH/POP round-trip" "PUSH/POP" "LDI R0,99\nPUSH R0\nPOP R1\nPRN R1\nHLT"
      (fun t => prints "99\n" t && t.machine.regs.sp == Registers.stackBase)
      (fun t => t.got ++ ", SP=" ++ hex t.machine.regs.sp.toNat),
    assembled "CALL/RET" "CALL/RET" "LDI R1,SUB\nCALL R1\nPRN R0\nHLT\nSUB: LDI R0,7\nRET"
      (prints "7\n") Trial.got,
    check "Unrecognized instruction" [Opcode.jmp.byte, 0] endsUnrecognized Trial.got]

def Check.line (c : Check) : String :=
  if c.passed then c.name ++ "... ✓\n" else c.name ++ "... ✗ (" ++ c.detail ++ ")\n"

def report : Report :=
  let failed := checks.countP (!·.passed)
  { status := if failed = 0 then 0 else 1
    stdout :=
      "━━━ LS8 Emulator Self-Test ━━━\n\n" ++ String.join (checks.map Check.line) ++
        "\n━━━━━━━━━━━━━━━━━━━━━━━━━━━━━━\nResults: " ++ decimal (checks.length - failed) ++
        " passed, " ++ decimal failed ++ " failed\n" ++
        (if failed = 0 then "✓ All tests passed!\n" else "") }

end Ls8.SelfTest
