import Ls8.Journal
import Ls8.Sink
import Ls8.Text.Basic
import Ls8.Text.Numeral
import Ls8.Text.Utf8

/-!
# Program images

The text form of a program: a line that starts with binary digits, after white space, is one byte;
whatever follows the digits is a comment, and other lines count for nothing. An image keeps each
byte with the line it came from.
-/

namespace Ls8

open Numeral (binary decimal hex)

/-- A byte of a program and its source line. -/
structure ImageRow where
  byte : UInt8
  source : String
deriving DecidableEq

/-- A program with its source lines. -/
structure Image where
  rows : List ImageRow
deriving DecidableEq

namespace Image

def empty : Image :=
  ⟨[]⟩

def bytes (image : Image) : List UInt8 :=
  image.rows.map (·.byte)

/-- The source line of each byte. -/
def sources (image : Image) : List String :=
  image.rows.map (·.source)

/-- An image of bytes without source text; each is shown in binary. -/
def ofBytes (bytes : List UInt8) : Image :=
  ⟨bytes.map fun b => ⟨b, binary b.toNat⟩⟩

def push (image : Image) (byte : UInt8) (source : String) : Image :=
  ⟨image.rows ++ [⟨byte, source⟩]⟩

/-! ## Reading -/

/-- The octets skipped in front of a literal: ASCII white space and the vertical tab. -/
def isGap (b : UInt8) : Bool :=
  b == 0x20 || b == 0x09 || b == 0x0A || b == 0x0B || b == 0x0C || b == 0x0D

def isBit (b : UInt8) : Bool :=
  b == 0x30 || b == 0x31

/-- The low byte of a run of binary digits. -/
def lowByte (digits : List UInt8) : UInt8 :=
  digits.foldl (fun acc b => (acc <<< 1) ||| (b - 0x30)) 0

/-- The byte that a run of binary digits stands for: the low byte of its value, where a value of
more than 64 bits counts as the greatest of 64 bits. -/
def literal (digits : List UInt8) : UInt8 :=
  if (digits.dropWhile (· == 0x30)).length > 64 then 0xFF else lowByte digits

/-- The byte on a line, if it starts with a binary literal. -/
def parseLine (line : List UInt8) : Option UInt8 :=
  let digits := (line.dropWhile isGap).takeWhile isBit
  if digits.isEmpty then none else some (literal digits)

/-- The row of a line: its byte, read from its octets, and its text without outer white space. -/
def row? (octets : List UInt8) (text : List Char) : Option ImageRow :=
  (parseLine octets).map fun byte => ⟨byte, String.ofList (Text.trim text)⟩

/-- The image that a text describes. -/
def ofText (text : String) : Image :=
  ⟨(Text.lines text.toList).filterMap fun line => row? (Utf8.encode line) line⟩

/-- The image that the content of a file describes; its lines need not be well-formed text. -/
def ofFile (content : List UInt8) : Image :=
  ⟨(content.splitOn 0x0A).filterMap fun line => row? line (Utf8.decodeLossy line)⟩

/-- What reading a file reports: how many bytes it held. -/
def fileRecords (name : String) (image : Image) : List Journal.Record :=
  [⟨.debug, .image, "parsed " ++ decimal image.rows.length ++ " bytes from " ++ name⟩]

/-! ## Writing -/

def line (byte : UInt8) (address : Nat) : String :=
  binary byte.toNat ++ " # " ++ hex address ++ "\n"

/-- The lines of bytes from an address on. -/
def linesFrom (address : Nat) : List UInt8 → List String
  | [] => []
  | b :: bs => line b address :: linesFrom (address + 1) bs

/-- The text form of a program: a title, a blank line, and a line for each byte. -/
def render (bytes : List UInt8) : String :=
  "# LS8 program, " ++ decimal bytes.length ++ " bytes\n\n" ++ String.join (linesFrom 0 bytes)

/-- The content of a file with a program's text form. -/
def fileContent (bytes : List UInt8) : List UInt8 :=
  Utf8.encode (render bytes).toList

def write (out : Sink) (bytes : List UInt8) : Sink × Option Refusal :=
  out.write (fileContent bytes)

end Image

end Ls8
