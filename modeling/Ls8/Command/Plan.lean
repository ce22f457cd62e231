import Ls8.Command.Files
import Ls8.Command.SelfTest
import Ls8.Image
import Ls8.Listing

/-!
# Carrying out a command

A plan says which files a command reads and creates, and what it does with the answers. `perform`
carries a plan out on the files of a working directory.
-/

namespace Ls8

open Numeral (decimal)

/-- What is left to do for a command. -/
inductive Plan where
  | done (report : Report)
  | execute (program : List UInt8) (options : RunOptions)
  | debug (program : List UInt8)
  | read (path : String) (next : Except FileError (List UInt8) → Plan)
  | create (path : String) (content : List UInt8) (next : Except FileError Unit → Plan)

namespace Plan

def fileFailure (text : String) : Plan :=
  .done (.failure ("I/O error: " ++ text))

/-- Reads a program file; a program without bytes is an error. -/
def loading (path : String) (next : List UInt8 → Plan) : Plan :=
  .read path fun
    | .error e => fileFailure (path ++ ": " ++ e.message)
    | .ok content =>
      let program := (Image.ofFile content).bytes
      if program.isEmpty then .done (.failure (path ++ ": program image is empty"))
      else next program

def saving (path : String) (program : List UInt8) : Plan :=
  .create path (Image.fileContent program) fun
    | .error e => .done (.failure ("Failed to save " ++ path ++ ": I/O error: " ++ e.message))
    | .ok () =>
      .done (.success ("Assembled " ++ decimal program.length ++ " bytes → " ++ path ++ "\n"))

/-- Assembles a source file. The image goes to `output`, or beside the source with the ending
`ls8`. -/
def assembling (source : String) (output : Option String) : Plan :=
  .read source fun content =>
    match content.bind fun bytes => (Utf8.decode? bytes).elim (.error .notText) .ok with
    | .error e => .done (.failure ("Failed to read " ++ source ++ ": " ++ e.message))
    | .ok text =>
      match assemble (String.ofList text) with
      | .error e => .done (.failure ("Assembly error: " ++ e.message))
      | .ok program => saving (output.getD (withEnding source "ls8")) program

def usageText : String :=
  "usage: ls8-emu <program.ls8>\n\nUse --help for available commands\n"

def helpText : String :=
  "An emulator for the LS8 eight-bit teaching computer\n\n" ++
  "Usage: ls8-emu [PROGRAM]\n       ls8-emu <COMMAND>\n\nCommands:\n" ++
  "  run     Run a program until it halts\n" ++
  "  debug   Interactive debugger\n" ++
  "  asm     Assemble mnemonic source to .ls8\n" ++
  "  disasm  Disassemble an .ls8 file\n" ++
  "  test    Run the built-in self-test\n" ++
  "  help    Print this message\n"

/-- What to say about arguments that are not understood. -/
def mistakeText : String :=
  "error: invalid arguments\n\nFor more information, try --help\n"

def ofCommand : Command → Plan
  | .usage => .done { status := 1, stdout := usageText }
  | .help => .done (.success helpText)
  | .version => .done (.success "ls8-emu 0.1.0\n")
  | .run path options => loading path fun program => .execute program options
  | .debug path => loading path .debug
  | .assemble source output => assembling source output
  | .disassemble path => loading path fun program => .done (.success (Listing.render program))
  | .selfTest => .done SelfTest.report

def ofArguments (arguments : List String) : Plan :=
  match Arguments.parse arguments with
  | some command => ofCommand command
  | none => .done { status := 2, stderr := mistakeText }

/-- Carries a plan out on files. Without a terminal there is no debugging. -/
def perform (files : Files) : Plan → Report × Files
  | .done report => (report, files)
  | .execute program options => (Execution.report options program, files)
  | .debug _ => (.failure "Debugger error: not a terminal", files)
  | .read path next => (next (files.read path)).perform files
  | .create path content next =>
    match files.create path content with
    | .ok after => (next (.ok ())).perform after
    | .error e => (next (.error e)).perform files

end Plan

end Ls8
