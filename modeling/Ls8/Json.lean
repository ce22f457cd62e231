import Ls8.Text.Numeral

/-!
# JSON documents

Documents as values, looking into them, and writing them: `render` puts everything on one line,
`renderPretty` gives each element and field a line of its own, two spaces further in than the line
that opens it.
-/

namespace Ls8

open Numeral (decimal padded signed)

inductive Json where
  | null
  | bool (value : Bool)
  | integer (value : Int)
  /-- A number written with a fraction or with an exponent: `mantissa` divided by ten `places`
  times. -/
  | fraction (mantissa : Int) (places : Nat)
  | string (value : String)
  | array (items : List Json)
  | object (fields : List (String × Json))
deriving Inhabited

namespace Json

/-! ## Looking into documents -/

def field? : Json → String → Option Json
  | object fields, name => fields.lookup name
  | _, _ => none

/-- An object with a field set; a new field comes last. -/
def setField : Json → String → Json → Json
  | object fields, name, value =>
    if (fields.lookup name).isSome then
      object (fields.map fun (key, old) => if key = name then (key, value) else (key, old))
    else object (fields ++ [(name, value)])
  | j, _, _ => j

def eraseField : Json → String → Json
  | object fields, name => object (fields.filter (·.1 ≠ name))
  | j, _ => j

/-- An integer that is not negative and below a bound. -/
def natural? (bound : Nat) : Json → Option Nat
  | integer value => if 0 ≤ value ∧ value < bound then some value.toNat else none
  | _ => none

def byte? (j : Json) : Option UInt8 :=
  (j.natural? UInt8.size).map UInt8.ofNat

def bytes? : Json → Option (List UInt8)
  | array items => items.mapM byte?
  | _ => none

def ofNat (n : Nat) : Json :=
  integer n

def ofByte (b : UInt8) : Json :=
  integer b.toNat

def ofBytes (bytes : List UInt8) : Json :=
  array (bytes.map ofByte)

/-! ## Writing -/

/-- A character inside a string. -/
def escape (c : Char) : String :=
  if c = Char.ofNat 0x22 then "\\\""
  else if c = Char.ofNat 0x5C then "\\\\"
  else if c = Char.ofNat 0x08 then "\\b"
  else if c = Char.ofNat 0x09 then "\\t"
  else if c = Char.ofNat 0x0A then "\\n"
  else if c = Char.ofNat 0x0C then "\\f"
  else if c = Char.ofNat 0x0D then "\\r"
  else if c.toNat < 0x20 then "\\u" ++ String.ofList ((padded 16 4 c.toNat).toList.map Char.toLower)
  else String.singleton c

def quote (s : String) : String :=
  "\"" ++ String.join (s.toList.map escape) ++ "\""

/-- The text of a document without parts. -/
def scalarText : Json → String
  | null => "null"
  | bool value => if value then "true" else "false"
  | integer value => signed value
  | fraction mantissa places => signed mantissa ++ "e-" ++ decimal places
  | string value => quote value
  | array _ | object _ => ""

mutual

/-- A document on one line, without spaces. -/
def render : Json → String
  | array items => "[" ++ ",".intercalate (renderItems items) ++ "]"
  | object fields => "\x7b" ++ ",".intercalate (renderFields fields) ++ "\x7d"
  | scalar => scalar.scalarText

def renderItems : List Json → List String
  | [] => []
  | j :: rest => j.render :: renderItems rest

def renderFields : List (String × Json) → List String
  | [] => []
  | (name, j) :: rest => (quote name ++ ":" ++ j.render) :: renderFields rest

end

/-- A line end and the space in front of a line at a depth. -/
def newLine (depth : Nat) : String :=
  "\n" ++ String.ofList (List.replicate (2 * depth) ' ')

/-- Parts on lines of their own between two brackets; without parts only the brackets. -/
def block (depth : Nat) (left right : String) (parts : List String) : String :=
  if parts.isEmpty then left ++ right
  else left ++ ",".intercalate (parts.map (newLine (depth + 1) ++ ·)) ++ newLine depth ++ right

mutual

/-- A document over several lines, the first of which stands at `depth`. -/
def renderAt (depth : Nat) : Json → String
  | array items => block depth "[" "]" (renderItemsAt (depth + 1) items)
  | object fields => block depth "\x7b" "\x7d" (renderFieldsAt (depth + 1) fields)
  | scalar => scalar.scalarText

def renderItemsAt (depth : Nat) : List Json → List String
  | [] => []
  | j :: rest => j.renderAt depth :: renderItemsAt depth rest

def renderFieldsAt (depth : Nat) : List (String × Json) → List String
  | [] => []
  | (name, j) :: rest => (quote name ++ ": " ++ j.renderAt depth) :: renderFieldsAt depth rest

end

def renderPretty (j : Json) : String :=
  j.renderAt 0

end Json

end Ls8
