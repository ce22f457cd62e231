/-!
# Output sinks

Where printed text goes. A sink takes octets until its room is used up and then refuses, in one of
two ways; what fitted before stays taken.
-/

namespace Ls8

/-- How a full sink refuses. -/
inductive Refusal where
  /-- It reports an error. -/
  | error
  /-- It takes nothing. -/
  | nothing
deriving DecidableEq

def Refusal.message : Refusal → String
  | .error => "sink full"
  | .nothing => "failed to write whole buffer"

/-- A sink with the octets that it took. -/
structure Sink where
  taken : Array UInt8 := #[]
  /-- How many more it takes; `none` means any number. -/
  room : Option Nat := none
  /-- What it does when it is full. -/
  refusal : Refusal := .error
deriving DecidableEq

namespace Sink

/-- A sink that never refuses. -/
def unlimited : Sink := {}

def limited (limit : Nat) (refusal : Refusal) : Sink :=
  { room := some limit, refusal }

/-- The sink after it took as much of `bytes` as fits. -/
def accept (s : Sink) (bytes : List UInt8) : Sink :=
  match s.room with
  | none => { s with taken := s.taken ++ bytes }
  | some room =>
    { s with taken := s.taken ++ bytes.take room, room := some (room - bytes.length) }

/-- All of `bytes` fits. -/
def hasRoom (s : Sink) (bytes : List UInt8) : Bool :=
  match s.room with
  | none => true
  | some room => bytes.length ≤ room

/-- Writes octets: the sink afterwards, and the refusal if not all of them fitted. -/
def write (s : Sink) (bytes : List UInt8) : Sink × Option Refusal :=
  (s.accept bytes, if s.hasRoom bytes then none else some s.refusal)

end Sink

end Ls8
