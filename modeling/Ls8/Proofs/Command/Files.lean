import Ls8.Command.Files
import Ls8.Proofs.Decoding

/-!
# Reading a file that was created

A path leads to a place (`Target.place?`) only if there is no directory there, so no directory on the
way changes when the place gets new content, and the path leads to the new content afterwards
(`follow_put`). What is created at a path is what is read there (`read_create`), and it can be created
wherever the path leads to a place and does not end in a slash (`create_eq_ok_iff`). A path to another
place leads to what it led to (`follow_put_of_ne`).
-/

namespace Ls8.Files

/-- The place of a file that is there or could be. -/
def Target.place? : Target → Option Place
  | .file place _ | .free place => some place
  | .directory | .null => none

/-- The place of whatever is no directory. -/
def Target.spot? : Target → Option Place
  | .file place _ | .free place => some place
  | .null => some nullDevice
  | .directory => none

variable {files after : Files} {place here other : Place} {path name : String} {rest : List String}
  {target : Target} {content : List UInt8}

theorem Target.spot?_of_place? (h : target.place? = some place) : target.spot? = some place := by
  cases target with
  | file _ _ | free _ => exact h
  | directory | null => cases h

/-! ## New content -/

theorem content?_put (files : Files) (place : Place) (content : List UInt8) :
    (files.put place content).content? place = some content :=
  List.lookup_cons_self

theorem content?_put_of_ne (h : here ≠ place) :
    (files.put place content).content? here = files.content? here := by
  have hfilter : (files.entries.filter (·.1 ≠ place)).lookup here = files.entries.lookup here := by
    induction files.entries with
    | nil => rfl
    | cons entry entries ih =>
      obtain ⟨other, _⟩ := entry
      by_cases hother : other = place
      · rw [List.filter_cons_of_neg (by simpa using hother), ih, List.lookup_cons,
          beq_false_of_ne (hother ▸ h)]
      · rw [List.filter_cons_of_pos (by simpa using hother), List.lookup_cons, List.lookup_cons, ih]
  rw [content?, put, List.lookup_cons, beq_false_of_ne h]
  exact hfilter

theorem isDirectory_put (h : files.isDirectory here) :
    (files.put place content).isDirectory here := by
  simp only [isDirectory, Bool.or_eq_true, List.any_eq_true] at h ⊢
  rcases h with h | ⟨⟨other, old⟩, hmem, hbelow⟩
  · exact .inl h
  · right
    by_cases hother : other = place
    · exact ⟨(place, content), List.mem_cons_self, hother ▸ hbelow⟩
    · refine ⟨(other, old), List.mem_cons_of_mem _ (List.mem_filter.mpr ⟨hmem, ?_⟩), hbelow⟩
      simpa using hother

/-! ## Following names -/

/-- There is a file at a place, or there could be: it is no directory. -/
def CanHold (files : Files) (place : Place) : Prop :=
  (files.content? place).isSome ∨ ¬ files.isDirectory place

theorem canHold_of_follow (h : files.follow here rest = .ok target)
    (hplace : target.place? = some place) : files.CanHold place := by
  fun_induction follow files here rest
  case case2 ih => exact ih h
  case case3 ih => exact ih h
  case case9 ih => exact ih h
  case case5 hcontent _ =>
    cases h
    rw [← Option.some.inj hplace]
    exact .inl (Option.isSome_of_eq_some hcontent)
  case case10 hdirectory _ =>
    cases h
    rw [← Option.some.inj hplace]
    exact .inr hdirectory
  all_goals cases h <;> cases hplace

theorem CanHold.ne (hplace : files.CanHold place) (hnone : files.content? here = none)
    (hdirectory : files.isDirectory here) : here ≠ place := by
  rintro rfl
  rcases hplace with hsome | hnot
  · rw [hnone] at hsome
    cases hsome
  · exact hnot hdirectory

section

variable (hskip : ¬(name = "" ∨ name = ".")) (hup : ¬name = "..") (hlong : ¬isTooLong name)

include hskip hup hlong

theorem follow_file (hcontent : files.content? (here ++ [name]) = some content) :
    files.follow here [name] = .ok (.file (here ++ [name]) content) := by
  rw [follow, if_neg hskip, if_neg hup, if_neg hlong]
  simp only [hcontent]
  rfl

theorem follow_null (hnone : files.content? (here ++ [name]) = none)
    (hnull : here ++ [name] = nullDevice) : files.follow here [name] = .ok .null := by
  rw [follow, if_neg hskip, if_neg hup, if_neg hlong]
  simp only [hnone, if_pos hnull]
  rfl

theorem follow_directory (hnone : files.content? (here ++ [name]) = none)
    (hnull : here ++ [name] ≠ nullDevice) (hdirectory : files.isDirectory (here ++ [name])) :
    files.follow here (name :: rest) = files.follow (here ++ [name]) rest := by
  rw [follow, if_neg hskip, if_neg hup, if_neg hlong]
  simp only [hnone, if_neg hnull, if_pos hdirectory]

end

theorem follow_put (h : files.follow here rest = .ok target) (hplace : target.place? = some place) :
    (files.put place content).follow here rest = .ok (.file place content) := by
  fun_induction follow files here rest
  case case2 hskip ih =>
    rw [follow, if_pos hskip]
    exact ih h
  case case3 hskip ih =>
    rw [follow, if_neg hskip, if_pos rfl]
    exact ih h
  case case9 here name rest hskip hup hlong next hnone hnull hdirectory ih =>
    have hne : next ≠ place := (canHold_of_follow h hplace).ne hnone hdirectory
    have hnone' : (files.put place content).content? next = none := by
      rw [content?_put_of_ne hne, hnone]
    rw [follow_directory hskip hup hlong hnone' hnull (isDirectory_put hdirectory)]
    exact ih h
  case case5 here name rest hskip hup hlong next _ _ hlast =>
    cases h
    rw [← Option.some.inj hplace]
    rw [List.isEmpty_iff.mp hlast]
    exact follow_file hskip hup hlong (content?_put files next content)
  case case10 here name rest hskip hup hlong next _ _ _ hlast =>
    cases h
    rw [← Option.some.inj hplace]
    rw [List.isEmpty_iff.mp hlast]
    exact follow_file hskip hup hlong (content?_put files next content)
  all_goals cases h <;> cases hplace

theorem follow_put_of_ne (h : files.follow here rest = .ok target) (hspot : target.spot? = some other)
    (hfree : target ≠ .free other) (hne : other ≠ place) (hplace : files.CanHold place) :
    (files.put place content).follow here rest = .ok target := by
  fun_induction follow files here rest
  case case2 hskip ih =>
    rw [follow, if_pos hskip]
    exact ih h
  case case3 hskip ih =>
    rw [follow, if_neg hskip, if_pos rfl]
    exact ih h
  case case9 hskip hup hlong next hnone hnull hdirectory ih =>
    have hnone' : (files.put place content).content? next = none := by
      rw [content?_put_of_ne (hplace.ne hnone hdirectory), hnone]
    rw [follow_directory hskip hup hlong hnone' hnull (isDirectory_put hdirectory)]
    exact ih h
  case case5 hskip hup hlong next old hold hlast =>
    cases h
    rw [← Option.some.inj hspot] at hne
    rw [List.isEmpty_iff.mp hlast]
    exact follow_file hskip hup hlong ((content?_put_of_ne hne).trans hold)
  case case7 hskip hup hlong next hnone hnull hlast =>
    cases h
    rw [← Option.some.inj hspot, ← hnull] at hne
    rw [List.isEmpty_iff.mp hlast]
    exact follow_null hskip hup hlong ((content?_put_of_ne hne).trans hnone) hnull
  case case10 =>
    cases h
    exact absurd (congrArg Target.free (Option.some.inj hspot)) hfree
  all_goals cases h <;> cases hspot

/-! ## Files -/

theorem find_eq_ok_iff :
    files.find path = .ok target ↔
      check path = .ok () ∧ files.follow (start path) (names path) = .ok target := by
  rw [find, except_bind_eq_ok_iff]
  exact ⟨fun ⟨(), h⟩ => h, fun h => ⟨(), h⟩⟩

theorem find_put (h : files.find path = .ok target) (hplace : target.place? = some place) :
    (files.put place content).find path = .ok (.file place content) := by
  obtain ⟨hcheck, hfollow⟩ := find_eq_ok_iff.mp h
  exact find_eq_ok_iff.mpr ⟨hcheck, follow_put hfollow hplace⟩

theorem read_put_of_ne (h : files.find path = .ok target) (hspot : target.spot? = some other)
    (hfree : target ≠ .free other) (hne : other ≠ place) (hplace : files.CanHold place) :
    (files.put place content).read path = files.read path := by
  obtain ⟨hcheck, hfollow⟩ := find_eq_ok_iff.mp h
  have hfind : (files.put place content).find path = .ok target :=
    find_eq_ok_iff.mpr ⟨hcheck, follow_put_of_ne hfollow hspot hfree hne hplace⟩
  rw [read, read, hfind, h]

theorem exists_target_of_read (h : files.read path = .ok content) :
    ∃ target place, files.find path = .ok target ∧ target.spot? = some place ∧
      target ≠ .free place := by
  rw [read] at h
  obtain ⟨target, hfind, h⟩ := except_bind_eq_ok_iff.mp h
  cases target with
  | file place old => exact ⟨_, place, hfind, rfl, nofun⟩
  | null => exact ⟨_, nullDevice, hfind, rfl, nofun⟩
  | directory | free _ => cases h

theorem read_put (h : files.find path = .ok target) (hplace : target.place? = some place) :
    (files.put place content).read path = .ok content := by
  rw [read, find_put h hplace]
  rfl

/-- A file is created at the place that the path leads to, and nothing at the device that keeps
nothing; no path with a slash at its end will do. -/
theorem create_eq_ok_iff :
    files.create path content = .ok after ↔
      withoutSlash path = path ∧
        ((∃ target place, files.find path = .ok target ∧ target.place? = some place ∧
            after = files.put place content) ∨
          files.find path = .ok .null ∧ after = files) := by
  rw [create]
  by_cases hslash : withoutSlash path = path
  · rw [if_pos hslash, except_bind_eq_ok_iff]
    constructor
    · rintro ⟨target, hfind, h⟩
      refine ⟨hslash, ?_⟩
      cases target with
      | file place _ => exact .inl ⟨_, place, hfind, rfl, (Except.ok.inj h).symm⟩
      | free place => exact .inl ⟨_, place, hfind, rfl, (Except.ok.inj h).symm⟩
      | null => exact .inr ⟨hfind, (Except.ok.inj h).symm⟩
      | directory => cases h
    · rintro ⟨-, ⟨target, place, hfind, hplace, rfl⟩ | ⟨hfind, rfl⟩⟩
      · refine ⟨target, hfind, ?_⟩
        cases target <;> cases hplace <;> rfl
      · exact ⟨.null, hfind, rfl⟩
  · rw [if_neg hslash]
    constructor
    · intro h
      obtain ⟨_, _, h⟩ := except_bind_eq_ok_iff.mp h
      obtain ⟨_, _, h⟩ := except_bind_eq_ok_iff.mp h
      cases h
    · intro h
      exact absurd h.1 hslash

theorem read_create (h : files.create path content = .ok after)
    (hnull : files.find path ≠ .ok .null) : after.read path = .ok content := by
  obtain ⟨-, ⟨target, place, hfind, hplace, rfl⟩ | ⟨hfind, -⟩⟩ := create_eq_ok_iff.mp h
  · exact read_put hfind hplace
  · exact absurd hfind hnull

end Ls8.Files
