import Ls8.Command.Arguments
import Ls8.Proofs.Text.Numeral

/-!
# Command lines

Every choice of options can be asked for, at any path: for a run (`parse_commandLine`) and for an
assembly (`parse_assemblyLine`).
-/

namespace Ls8.Arguments

open Numeral (decimal natural?_decimal word64?)

/-- The options of a run. -/
def runOptions : List Opt := [.help, .maxCycles, .trace, .dumpState]

theorem looksLikeOption_decimal (n : Nat) : looksLikeOption (decimal n) = false := by
  have hsign : '-' ∉ (decimal n).toList := Numeral.not_mem_decimal (by decide)
  unfold looksLikeOption
  split
  · rename_i c rest heq
    rw [heq] at hsign
    exact absurd List.mem_cons_self hsign
  · rfl

theorem word64?_decimal (n : UInt64) : word64? (decimal n.toNat).toList = some n := by
  rw [Numeral.word64?_of_natural? (natural?_decimal _) n.toNat_lt, UInt64.ofNat_toNat]

/-- The command line for a run, with the options by their names. -/
def commandLine (path : String) (options : RunOptions) : List String :=
  "run" :: ((options.limit.elim [] fun n => ["--max-cycles", decimal n.toNat]) ++
    ((if options.trace then ["--trace"] else []) ++
      ((if options.dumpState then ["--dump-state"] else []) ++ ["--", path])))

section

variable {known : List Opt} {argument : String} {opt : Opt} (rest : List String)

theorem pieces_flag (h : argument ≠ "--")
    (hread : readArgument known argument = ⟨[.flag opt], none⟩) (given : Bool) :
    pieces known none ((if given then [argument] else []) ++ rest) =
      (if given then [.flag opt] else []) ++ pieces known none rest := by
  cases given with
  | false => rfl
  | true =>
    rw [if_pos rfl, if_pos rfl, List.singleton_append, pieces]
    simp only [if_neg h, hread]

theorem pieces_limit (limit : Option UInt64) :
    pieces runOptions none ((limit.elim [] fun n => ["--max-cycles", decimal n.toNat]) ++ rest) =
      (limit.elim [] fun n => [.value .maxCycles (decimal n.toNat)]) ++
        pieces runOptions none rest := by
  cases limit with
  | none => rfl
  | some n =>
    have hread : readArgument runOptions "--max-cycles" = ⟨[], some .maxCycles⟩ := rfl
    have hname : "--max-cycles" ≠ "--" := by decide
    simp only [Option.elim_some, List.cons_append, List.nil_append, pieces, if_neg hname, hread,
      looksLikeOption_decimal, Bool.false_eq_true, if_false]

end

theorem parse_commandLine {path : String} (hpath : path ≠ "") (options : RunOptions) :
    parse (commandLine path options) = some (.run path options) := by
  obtain ⟨limit, trace, dumpState⟩ := options
  have hpieces : pieces runOptions none (commandLine path ⟨limit, trace, dumpState⟩).tail =
      (limit.elim [] fun n => [.value .maxCycles (decimal n.toNat)]) ++
        ((if trace then [.flag .trace] else []) ++
          ((if dumpState then [.flag .dumpState] else []) ++ [.operand path])) := by
    rw [commandLine, List.tail_cons, pieces_limit, pieces_flag _ (by decide) (by rfl),
      pieces_flag _ (by decide) (by rfl)]
    rfl
  have hgiven : collect runOptions (commandLine path ⟨limit, trace, dumpState⟩).tail =
      .ok ⟨some path, limit, none, trace, dumpState⟩ := by
    rw [collect, hpieces]
    cases limit <;> cases trace <;> cases dumpState <;>
      simp [Given.take, word64?_decimal, hpath, pure, Except.pure, bind, Except.bind]
  show withOperand runOptions (commandLine path ⟨limit, trace, dumpState⟩).tail _ = _
  rw [withOperand, hgiven]
  rfl

/-- The command line for an assembly, with the output by its name. -/
def assemblyLine (source : String) (output : Option String) : List String :=
  "asm" :: ((output.elim [] fun path => ["--output=" ++ path]) ++ ["--", source])

theorem readArgument_output (path : String) :
    readArgument [.help, .output] ("--output=" ++ path) = ⟨[.value .output path], none⟩ := by
  have htext : ("--output=" ++ path).toList =
      '-' :: '-' :: (['o', 'u', 't', 'p', 'u', 't', '='] ++ path.toList) := by
    rw [String.toList_append]
    rfl
  have hname : readName [.help, .output] (['o', 'u', 't', 'p', 'u', 't', '='] ++ path.toList) =
      ⟨[.value .output (String.ofList path.toList)], none⟩ := rfl
  rw [String.ofList_toList] at hname
  rw [readArgument, htext]
  exact hname

theorem parse_assemblyLine {source : String} {output : Option String} (hsource : source ≠ "")
    (houtput : output ≠ some "") :
    parse (assemblyLine source output) = some (.assemble source output) := by
  have hgiven : collect [.help, .output] (assemblyLine source output).tail =
      .ok ⟨some source, none, output, false, false⟩ := by
    cases output with
    | none =>
      simp [assemblyLine, collect, pieces, Given.take, hsource, pure, Except.pure, bind, Except.bind]
    | some path =>
      have hpath : path ≠ "" := fun h => houtput (congrArg some h)
      have hname : "--output=" ++ path ≠ "--" := by
        intro h
        have hlength : 9 + path.length = 2 :=
          (String.length_append ..).symm.trans (congrArg String.length h)
        omega
      simp [assemblyLine, collect, pieces, hname, readArgument_output, Given.take, hsource, hpath,
        pure, Except.pure, bind, Except.bind]
  show withOperand [.help, .output] (assemblyLine source output).tail _ = _
  rw [withOperand, hgiven]
  rfl

end Ls8.Arguments
