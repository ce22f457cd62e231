import Ls8.Machine.Step

/-!
# What a sink has taken

Two writes in a row are one write of both texts, and a sink without a limit takes everything. The
line that a number is printed on is the usual decimal text of the number.
-/

namespace Ls8

namespace Sink

variable {s : Sink}

@[simp] theorem accept_nil : s.accept [] = s := by
  rcases s with ⟨taken, room, refusal⟩
  cases room <;> simp [accept]

theorem accept_append (xs ys : List UInt8) : s.accept (xs ++ ys) = (s.accept xs).accept ys := by
  have happend (taken : Array UInt8) (xs ys : List UInt8) :
      taken ++ (xs ++ ys) = taken ++ xs ++ ys :=
    Array.toList_inj.mp (by simp)
  rcases s with ⟨taken, room, refusal⟩
  cases room with
  | none => simp [accept, happend]
  | some room => simp [accept, List.take_append, Nat.sub_sub, happend]

@[simp] theorem accept_room_none (h : s.room = none) (xs : List UInt8) :
    (s.accept xs).room = none := by
  simp [accept, h]

theorem accept_of_room_none (h : s.room = none) (xs : List UInt8) :
    s.accept xs = { s with taken := s.taken ++ xs } := by
  simp [accept, h]

theorem hasRoom_of_room_none (h : s.room = none) (xs : List UInt8) : s.hasRoom xs := by
  simp [hasRoom, h]

@[simp] theorem hasRoom_nil : s.hasRoom [] := by
  rcases s with ⟨taken, room, refusal⟩
  cases room <;> simp [hasRoom]

theorem hasRoom_append (xs ys : List UInt8) :
    s.hasRoom (xs ++ ys) ↔ s.hasRoom xs ∧ (s.accept xs).hasRoom ys := by
  rcases s with ⟨taken, room, refusal⟩
  cases room with
  | none => simp [hasRoom, accept]
  | some room =>
    simp only [hasRoom, accept, List.length_append, decide_eq_true_eq]
    omega

@[simp] theorem accept_refusal (xs : List UInt8) : (s.accept xs).refusal = s.refusal := by
  rcases s with ⟨taken, room, refusal⟩
  cases room <;> rfl

theorem toList_taken_unlimited (xs : List UInt8) :
    (Sink.unlimited.accept xs).taken.toList = xs := by
  simp [accept, unlimited]

theorem hasRoom_limited {limit : Nat} {refusal : Refusal} {xs : List UInt8} :
    (limited limit refusal).hasRoom xs ↔ xs.length ≤ limit := by
  simp [hasRoom, limited]

theorem toList_taken_limited (limit : Nat) (refusal : Refusal) (xs : List UInt8) :
    ((limited limit refusal).accept xs).taken.toList = xs.take limit := by
  simp [accept, limited]

theorem toList_taken_of_hasRoom {xs : List UInt8} (h : s.hasRoom xs) :
    (s.accept xs).taken.toList = s.taken.toList ++ xs := by
  rcases s with ⟨taken, room, refusal⟩
  cases room with
  | none => simp [accept]
  | some room =>
    have hfits : xs.length ≤ room := by simpa [hasRoom] using h
    simp [accept, List.take_of_length_le hfits]

theorem exists_taken_of_no_room {xs : List UInt8} (h : ¬ s.hasRoom xs) :
    ∃ ys : List UInt8, (s.accept xs).taken = s.taken ++ ys ∧ ys <+: xs ∧ ys.length < xs.length := by
  rcases s with ⟨taken, room, refusal⟩
  cases room with
  | none => simp [hasRoom] at h
  | some room =>
    have hlong : room < xs.length := by simpa [hasRoom] using h
    refine ⟨xs.take room, rfl, List.take_prefix room xs, ?_⟩
    rw [List.length_take]
    omega

end Sink

theorem Utf8.encode_append (cs ds : List Char) :
    Utf8.encode (cs ++ ds) = Utf8.encode cs ++ Utf8.encode ds :=
  List.flatMap_append

namespace Machine

theorem numberLine_eq (value : UInt8) :
    numberLine value = Utf8.encode (toString value.toNat ++ "\n").toList := by
  simp [numberLine, Numeral.decimal]

end Machine

end Ls8
