/-!
# Numerals

Writing natural numbers in a radix, with capital digits and leading zeros, and reading them back:
`natural?` wants digits only, `integer?` allows one sign in front.
-/

namespace Ls8.Numeral

/-! ## Writing -/

/-- The digits of `n`, most significant first; digits above nine are capital letters. -/
def digits (radix n : Nat) : List Char :=
  (Nat.toDigits radix n).map Char.toUpper

/-- `n` in `radix`, filled up with zeros to at least `width` digits. -/
def padded (radix width n : Nat) : String :=
  String.ofList ((digits radix n).leftpad width '0')

/-- `n` in decimal, without leading zeros. -/
def decimal (n : Nat) : String :=
  String.ofList (Nat.toDigits 10 n)

/-- An integer in decimal, with a minus sign if it is negative. -/
def signed (n : Int) : String :=
  if n < 0 then "-" ++ decimal n.natAbs else decimal n.natAbs

/-- `n` in hexadecimal, at least two digits. -/
def hex (n : Nat) : String :=
  padded 16 2 n

/-- `n` in binary, at least eight digits. -/
def binary (n : Nat) : String :=
  padded 2 8 n

/-! ## Reading -/

/-- The value of a digit: `0` to `9`, then letters of either case. -/
def digitValue? (radix : Nat) (c : Char) : Option Nat :=
  let value :=
    if '0' ≤ c ∧ c ≤ '9' then c.toNat - '0'.toNat
    else if 'a' ≤ c ∧ c ≤ 'z' then c.toNat - 'a'.toNat + 10
    else if 'A' ≤ c ∧ c ≤ 'Z' then c.toNat - 'A'.toNat + 10
    else radix
  if value < radix then some value else none

/-- The number that `cs`, read after digits worth `acc`, brings the value to. -/
def continue? (radix acc : Nat) : List Char → Option Nat
  | [] => some acc
  | c :: cs => (digitValue? radix c).bind fun d => continue? radix (acc * radix + d) cs

/-- A non-empty run of digits and nothing else. -/
def natural? (radix : Nat) (cs : List Char) : Option Nat :=
  if cs.isEmpty then none else continue? radix 0 cs

/-- A natural number with at most one `+` in front. -/
def unsigned? (radix : Nat) : List Char → Option Nat
  | '+' :: cs => natural? radix cs
  | cs => natural? radix cs

/-- A natural number with at most one `+` or `-` in front. -/
def integer? (radix : Nat) : List Char → Option Int
  | '-' :: cs => (natural? radix cs).map fun n => -(n : Int)
  | cs => (unsigned? radix cs).map fun n => (n : Int)

/-- An integer that fits a signed 64-bit word. -/
def int64? (radix : Nat) (cs : List Char) : Option Int :=
  (integer? radix cs).filter fun n => -0x8000000000000000 ≤ n ∧ n < 0x8000000000000000

/-- An unsigned decimal that fits a 64-bit word. -/
def word64? (cs : List Char) : Option UInt64 :=
  ((unsigned? 10 cs).filter (· < UInt64.size)).map UInt64.ofNat

/-- An unsigned decimal that fits a 16-bit word. -/
def word16? (cs : List Char) : Option Nat :=
  (unsigned? 10 cs).filter (· < UInt16.size)

/-- An unsigned decimal that fits a byte. -/
def byte? (cs : List Char) : Option UInt8 :=
  ((unsigned? 10 cs).filter (· < UInt8.size)).map UInt8.ofNat

end Ls8.Numeral
