import Ls8.Text.Numeral

/-!
# Command line arguments

The first argument may name a command; otherwise it is the path of a program to run. Options have a
long name and a letter. Letters may share a dash, a value may follow its letter directly, after an
equals sign, or as the next argument, and behind a double dash nothing is an option. Arguments are
taken in order: the first mistake decides, unless help or the version was asked for before it.
-/

namespace Ls8

structure RunOptions where
  /-- The greatest number of instructions. -/
  limit : Option UInt64 := none
  trace : Bool := false
  dumpState : Bool := false
deriving DecidableEq

/-- What the command line asks for. -/
inductive Command where
  | usage
  | help
  | version
  | run (path : String) (options : RunOptions)
  | debug (path : String)
  | assemble (source : String) (output : Option String)
  | disassemble (path : String)
  | selfTest
deriving DecidableEq

namespace Arguments

/-! ## Options -/

inductive Opt where
  | help
  | version
  | maxCycles
  | trace
  | dumpState
  | output
deriving DecidableEq

namespace Opt

def letter : Opt → Char
  | help => 'h'
  | version => 'V'
  | maxCycles => 'm'
  | trace => 't'
  | dumpState => 'd'
  | output => 'o'

def name : Opt → String
  | help => "help"
  | version => "version"
  | maxCycles => "max-cycles"
  | trace => "trace"
  | dumpState => "dump-state"
  | output => "output"

def hasValue : Opt → Bool
  | maxCycles | output => true
  | _ => false

end Opt

/-- A piece of the command line. -/
inductive Piece where
  | flag (opt : Opt)
  | value (opt : Opt) (text : String)
  | operand (text : String)
  | bad
deriving DecidableEq

/-- The pieces of one argument, and the option whose value must come next. -/
structure Reading where
  pieces : List Piece
  waiting : Option Opt := none

/-- A value behind its letter; an equals sign in front of it does not count. -/
def attached (text : List Char) : String :=
  match text with
  | '=' :: rest => String.ofList rest
  | _ => String.ofList text

/-- Reads the letters behind a dash. -/
def readLetters (known : List Opt) : List Char → Reading
  | [] => ⟨[], none⟩
  | c :: rest =>
    match known.find? (·.letter == c) with
    | none => ⟨[.bad], none⟩
    | some opt =>
      if opt.hasValue then
        if rest.isEmpty then ⟨[], some opt⟩ else ⟨[.value opt (attached rest)], none⟩
      else
        let more := readLetters known rest
        ⟨.flag opt :: more.pieces, more.waiting⟩

/-- Reads what stands behind two dashes. -/
def readName (known : List Opt) (text : List Char) : Reading :=
  let name := text.takeWhile (· != '=')
  let value := text.dropWhile (· != '=')
  match known.find? (·.name.toList == name) with
  | none => ⟨[.bad], none⟩
  | some opt =>
    match opt.hasValue, value with
    | true, [] => ⟨[], some opt⟩
    | true, _ :: value => ⟨[.value opt (String.ofList value)], none⟩
    | false, [] => ⟨[.flag opt], none⟩
    | false, _ :: _ => ⟨[.bad], none⟩

/-- Reads an argument in front of a double dash. A lone dash is an operand. -/
def readArgument (known : List Opt) (argument : String) : Reading :=
  match argument.toList with
  | '-' :: '-' :: name => readName known name
  | ['-'] => ⟨[.operand argument], none⟩
  | '-' :: letters => readLetters known letters
  | _ => ⟨[.operand argument], none⟩

/-- An argument that cannot be a value: it looks like an option. -/
def looksLikeOption (argument : String) : Bool :=
  match argument.toList with
  | '-' :: _ :: _ => true
  | _ => false

/-- The pieces of a command line; `waiting` is an option whose value must come next. -/
def pieces (known : List Opt) (waiting : Option Opt) : List String → List Piece
  | [] => if waiting.isSome then [.bad] else []
  | argument :: rest =>
    match waiting with
    | some opt =>
      if looksLikeOption argument then [.bad]
      else .value opt argument :: pieces known none rest
    | none =>
      if argument = "--" then rest.map .operand
      else
        let r := readArgument known argument
        r.pieces ++ pieces known r.waiting rest

/-! ## Meaning -/

/-- What the pieces of a command line have given so far. -/
structure Given where
  operand : Option String := none
  limit : Option UInt64 := none
  output : Option String := none
  trace : Bool := false
  dumpState : Bool := false

/-- Why taking pieces stops. -/
inductive Stop where
  | mistake
  | help
  | version

/-- Takes a piece. Nothing may be given twice, and a path is not empty. -/
def Given.take (g : Given) : Piece → Except Stop Given
  | .bad => throw .mistake
  | .flag .help => throw .help
  | .flag .version => throw .version
  | .flag .trace => if g.trace then throw .mistake else return { g with trace := true }
  | .flag .dumpState => if g.dumpState then throw .mistake else return { g with dumpState := true }
  | .value .maxCycles text =>
    match g.limit, Numeral.word64? text.toList with
    | none, some n => return { g with limit := some n }
    | _, _ => throw .mistake
  | .value .output text =>
    if g.output.isSome ∨ text = "" then throw .mistake else return { g with output := some text }
  | .operand text =>
    if g.operand.isSome ∨ text = "" then throw .mistake
    else return { g with operand := some text }
  | .flag _ | .value .. => throw .mistake

/-- Takes a piece where there can be no operand. -/
def Given.takeOption (g : Given) : Piece → Except Stop Given
  | .operand _ => throw .mistake
  | piece => g.take piece

def collect (known : List Opt) (arguments : List String) : Except Stop Given :=
  (pieces known none arguments).foldlM Given.take {}

/-- The command that was found, or the reason why there is none; none for a mistake. -/
def resolve (found : Except Stop (Option Command)) : Option Command :=
  match found with
  | .ok command => command
  | .error .help => some .help
  | .error .version => some .version
  | .error .mistake => none

/-- Reads the arguments of a command with one operand. -/
def withOperand (known : List Opt) (arguments : List String)
    (command : String → Given → Command) : Option Command :=
  resolve do
    let g ← collect known arguments
    return g.operand.map fun path => command path g

def commandNames : List String :=
  ["run", "debug", "asm", "disasm", "test", "help"]

/-- Reads the arguments of a request for help: at most the name of a command. -/
def helpTopic : List String → Option Command
  | [] => some .help
  | [topic] => if commandNames.contains topic then some .help else none
  | _ => none

/-- Reads a command line; none if there is a mistake in it. -/
def parse : List String → Option Command
  | [] => some .usage
  | "run" :: rest =>
    withOperand [.help, .maxCycles, .trace, .dumpState] rest fun path g =>
      .run path ⟨g.limit, g.trace, g.dumpState⟩
  | "debug" :: rest => withOperand [.help] rest fun path _ => .debug path
  | "asm" :: rest => withOperand [.help, .output] rest fun path g => .assemble path g.output
  | "disasm" :: rest => withOperand [.help] rest fun path _ => .disassemble path
  | "test" :: rest =>
    resolve do
      let _ ← (pieces [.help] none rest).foldlM Given.takeOption {}
      return some .selfTest
  | "help" :: rest => helpTopic rest
  | arguments =>
    resolve do
      let g ← collect [.help, .version] arguments
      return some (g.operand.elim .usage fun path => .run path {})

end Arguments

end Ls8
