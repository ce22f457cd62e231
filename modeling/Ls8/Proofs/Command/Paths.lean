import Mathlib.Data.List.DropRight
import Ls8.Proofs.Command.Files

/-!
# Names in a directory

A path is a name behind a directory (`exists_isNameIn`), and whatever is named in one directory lies in
one place under its name (`exists_place`). Another ending changes the name and nothing else
(`IsNameIn.withEnding`), and it changes every name but one that has this ending already
(`IsNameIn.withEnding_eq_self_iff`). So a file that is made beside another one, with another ending, goes
in its place exactly if the other one has that ending (`read_create_withEnding`, `create_withEnding`).
-/

namespace Ls8.Files

/-- A path is a name behind a directory, which is empty or ends in a slash. -/
structure IsNameIn (path : String) (directory name : List Char) : Prop where
  toList_eq : path.toList = directory ++ name
  slash_not_mem : '/' ∉ name
  ends_in_slash : ∀ c ∈ directory.getLast?, c = '/'

theorem exists_isNameIn (path : String) : ∃ directory name, IsNameIn path directory name := by
  refine ⟨path.toList.rdropWhile (· != '/'), path.toList.rtakeWhile (· != '/'),
    List.rdropWhile_append_rtakeWhile.symm, fun hmem => ?_, fun c hc => ?_⟩
  · simpa using List.mem_rtakeWhile_imp hmem
  · rw [List.rdropWhile, List.getLast?_reverse] at hc
    have hnot := List.head?_dropWhile_not (· != '/') path.toList.reverse
    rw [Option.mem_def.mp hc] at hnot
    simpa using hnot

namespace IsNameIn

variable {path : String} {directory name : List Char}

theorem takeWhile_reverse (h : IsNameIn path directory name) :
    path.toList.reverse.takeWhile (· != '/') = name.reverse := by
  have hname : ∀ c ∈ name.reverse, c != '/' := fun c hc =>
    bne_iff_ne.mpr fun heq => h.slash_not_mem (heq ▸ List.mem_reverse.mp hc)
  have hdirectory : directory.reverse.takeWhile (· != '/') = [] := by
    rcases List.eq_nil_or_concat directory with rfl | ⟨front, last, rfl⟩
    · rfl
    · obtain rfl : last = '/' := h.ends_in_slash last (by simp)
      simp
  rw [h.toList_eq, List.reverse_append, List.takeWhile_append_of_pos hname, hdirectory,
    List.append_nil]

theorem name_unique {directory' name' : List Char} (h : IsNameIn path directory name)
    (h' : IsNameIn path directory' name') : name = name' :=
  List.reverse_injective (h.takeWhile_reverse.symm.trans h'.takeWhile_reverse)

theorem exists_names (directory : List Char) :
    ∃ up, ∀ path name, IsNameIn path directory name → names path = up ++ [String.ofList name] := by
  rcases List.eq_nil_or_concat directory with rfl | ⟨front, last, rfl⟩
  · refine ⟨[], fun path name h => ?_⟩
    rw [names, h.toList_eq, List.nil_append, List.splitOn_eq_singleton h.slash_not_mem]
    rfl
  · refine ⟨(front.splitOn '/').map String.ofList, fun path name h => ?_⟩
    obtain rfl : last = '/' := h.ends_in_slash last (by simp)
    rw [names, h.toList_eq, List.concat_eq_append, List.append_assoc, List.singleton_append,
      List.splitOn_append_cons_self, List.splitOn_eq_singleton h.slash_not_mem, List.map_append]
    rfl

theorem start_eq (h : IsNameIn path directory name) :
    start path = if directory.head? = some '/' then root else [] := by
  rw [start, h.toList_eq]
  cases directory with
  | nil =>
    have hhead : ([] ++ name).head? ≠ some '/' := fun hhead =>
      h.slash_not_mem (List.mem_of_mem_head? hhead)
    rw [if_neg hhead]
    rfl
  | cons c directory => rfl

theorem withoutSlash_eq (h : IsNameIn path directory name) (hname : name ≠ []) :
    withoutSlash path = path := by
  obtain ⟨front, last, rfl⟩ := (List.eq_nil_or_concat name).resolve_left hname
  have hlast : last ≠ '/' := by
    rintro rfl
    exact h.slash_not_mem (by simp)
  have hreverse : path.toList.reverse = last :: (directory ++ front).reverse := by
    rw [h.toList_eq]
    simp
  have hstays : path.toList.reverse.dropWhile (· == '/') = path.toList.reverse := by
    rw [hreverse, List.dropWhile_cons_of_neg (by simpa using hlast)]
  rw [withoutSlash, hstays, List.reverse_reverse, String.ofList_toList]

end IsNameIn

/-! ## Places -/

section

variable {files : Files} {place here : Place} {name : String} {up : List String} {target : Target}

theorem follow_cons_cases (files : Files) (here : Place) (name : String) :
    (∃ next, ∀ rest ≠ [], files.follow here (name :: rest) = files.follow next rest) ∨
      ∃ e, ∀ rest ≠ [], files.follow here (name :: rest) = .error e := by
  by_cases hskip : name = "" ∨ name = "."
  · exact .inl ⟨here, fun rest _ => by rw [follow, if_pos hskip]⟩
  by_cases hup : name = ".."
  · exact .inl ⟨parent here, fun rest _ => by rw [follow, if_neg hskip, if_pos hup]⟩
  by_cases hlong : isTooLong name
  · exact .inr ⟨.nameTooLong, fun rest _ => by rw [follow, if_neg hskip, if_neg hup, if_pos hlong]⟩
  cases hcontent : files.content? (here ++ [name]) with
  | some content =>
    refine .inr ⟨.notDirectory, fun rest hrest => ?_⟩
    rw [follow, if_neg hskip, if_neg hup, if_neg hlong]
    simp only [hcontent, List.isEmpty_iff, if_neg hrest]
  | none =>
    by_cases hnull : here ++ [name] = nullDevice
    · refine .inr ⟨.notDirectory, fun rest hrest => ?_⟩
      rw [follow, if_neg hskip, if_neg hup, if_neg hlong]
      simp only [hcontent, if_pos hnull, List.isEmpty_iff, if_neg hrest]
    by_cases hdirectory : files.isDirectory (here ++ [name])
    · exact .inl ⟨here ++ [name], fun rest _ =>
        follow_directory hskip hup hlong hcontent hnull hdirectory⟩
    · refine .inr ⟨.missing, fun rest hrest => ?_⟩
      rw [follow, if_neg hskip, if_neg hup, if_neg hlong]
      simp only [hcontent, if_neg hnull, if_neg hdirectory, List.isEmpty_iff, if_neg hrest]

theorem follow_concat (h : files.follow here (up ++ [name]) = .ok target) :
    ∃ directory, ∀ last, files.follow here (up ++ [last]) = files.follow directory [last] := by
  induction up generalizing here with
  | nil => exact ⟨here, fun _ => rfl⟩
  | cons first up ih =>
    have hne : ∀ last, up ++ [last] ≠ [] := fun last => List.concat_ne_nil last up
    rcases follow_cons_cases files here first with ⟨next, hnext⟩ | ⟨e, herror⟩
    · obtain ⟨directory, hdirectory⟩ := ih ((hnext _ (hne name)).symm.trans h)
      exact ⟨directory, fun last => (hnext _ (hne last)).trans (hdirectory last)⟩
    · rw [List.cons_append, herror _ (hne name)] at h
      cases h

theorem spot_of_follow (h : files.follow here [name] = .ok target)
    (hspot : target.spot? = some place) : name ≠ ".." ∧ place = here ++ [name] := by
  have hnil : ∀ here, files.follow here [] ≠ .ok target := by
    rintro here hnil
    rw [follow] at hnil
    cases hnil
    cases hspot
  rw [follow] at h
  split at h
  · exact absurd h (hnil _)
  split at h
  · exact absurd h (hnil _)
  rename_i hup
  refine ⟨hup, ?_⟩
  split at h
  · cases h
  simp only [List.isEmpty_nil, if_true] at h
  split at h
  · cases h
    exact (Option.some.inj hspot).symm
  split at h
  · rename_i hnull
    cases h
    exact (Option.some.inj hspot).symm.trans hnull.symm
  split at h
  · exact absurd h (hnil _)
  · cases h
    exact (Option.some.inj hspot).symm

/-- Whatever is named in one directory lies in one place, under its name. -/
theorem exists_place (files : Files) (directory : List Char) :
    ∃ here : Place, ∀ path name target place, IsNameIn path directory name →
      files.find path = .ok target → target.spot? = some place →
      name ≠ ['.', '.'] ∧ place = here ++ [String.ofList name] := by
  obtain ⟨up, hnames⟩ := IsNameIn.exists_names directory
  have hfollow : ∀ {path name target}, IsNameIn path directory name →
      files.find path = .ok target →
      files.follow (if directory.head? = some '/' then root else []) (up ++ [String.ofList name]) =
        .ok target := fun hpath hfind => by
    rw [← hpath.start_eq, ← hnames _ _ hpath]
    exact (find_eq_ok_iff.mp hfind).2
  by_cases hany : ∃ path name target, IsNameIn path directory name ∧ files.find path = .ok target
  · obtain ⟨_, _, _, hpath, hfind⟩ := hany
    obtain ⟨here, hhere⟩ := follow_concat (hfollow hpath hfind)
    refine ⟨here, fun path name target place hpath hfind hspot => ?_⟩
    have hlast := (hhere (String.ofList name)).symm.trans (hfollow hpath hfind)
    obtain ⟨hup, hplace⟩ := spot_of_follow hlast hspot
    refine ⟨?_, hplace⟩
    rintro rfl
    exact hup rfl
  · refine ⟨[], fun path name target _ hpath hfind _ => ?_⟩
    exact absurd ⟨path, name, target, hpath, hfind⟩ hany

end

/-! ## Endings -/

/-- A path has an ending: its last name has it, behind a stem that is neither empty nor a dot. -/
def HasEnding (path ending : String) : Prop :=
  ∃ directory stem, IsNameIn path directory (stem ++ '.' :: ending.toList) ∧
    stem ≠ [] ∧ stem ≠ ['.']

/-- A name with another ending. -/
def nameWithEnding (name : List Char) (ending : String) : List Char :=
  let stem := name.take ((stemLength? name).getD name.length)
  if stem = ['.'] then ['.', '.'] else stem ++ '.' :: ending.toList

section

variable {path ending : String} {directory name stem : List Char}

theorem stemLength?_stem (hdot : '.' ∉ ending.toList) :
    stemLength? (stem ++ '.' :: ending.toList) = if stem = [] then none else some stem.length := by
  have hreverse : (stem ++ '.' :: ending.toList).reverse =
      ending.toList.reverse ++ '.' :: stem.reverse := by
    simp
  have hending : ∀ c ∈ ending.toList.reverse, c != '.' := fun c hc =>
    bne_iff_ne.mpr fun heq => hdot (heq ▸ List.mem_reverse.mp hc)
  rw [stemLength?, hreverse, List.takeWhile_append_of_pos hending,
    List.takeWhile_cons_of_neg (by decide), List.append_nil]
  simp only [List.length_append, List.length_cons, List.length_reverse]
  by_cases hnil : stem = []
  · rw [hnil, List.length_nil, Nat.zero_add, if_neg (Nat.lt_irrefl _), if_pos rfl]
  · have hpos : 0 < stem.length := List.length_pos_of_ne_nil hnil
    rw [if_pos (by omega), if_neg hnil]
    congr 1
    omega

theorem nameWithEnding_eq_self_iff (hdot : '.' ∉ ending.toList) (hup : name ≠ ['.', '.']) :
    nameWithEnding name ending = name ↔
      ∃ stem, name = stem ++ '.' :: ending.toList ∧ stem ≠ [] ∧ stem ≠ ['.'] := by
  rw [nameWithEnding]
  constructor
  · intro h
    split at h
    · exact absurd h.symm hup
    · rename_i hstem
      refine ⟨_, h.symm, fun hnil => ?_, hstem⟩
      have hname : name = [] ++ '.' :: ending.toList := by
        rw [hnil] at h
        exact h.symm
      rw [hname, stemLength?_stem hdot, if_pos rfl, Option.getD_none, List.take_length] at hnil
      cases hnil
  · rintro ⟨stem, rfl, hnil, hstem⟩
    simp only [stemLength?_stem hdot, if_neg hnil, Option.getD_some, List.take_left, if_neg hstem]

theorem slash_not_mem_nameWithEnding (hname : '/' ∉ name) (hending : '/' ∉ ending.toList) :
    '/' ∉ nameWithEnding name ending := by
  rw [nameWithEnding]
  split
  · decide
  · rw [List.mem_append, List.mem_cons, not_or, not_or]
    exact ⟨fun hmem => hname (List.mem_of_mem_take hmem), by decide, hending⟩

theorem toList_withEnding (h : IsNameIn path directory name) (ending : String) :
    (withEnding path ending).toList = directory ++ nameWithEnding name ending := by
  have hdirectory : path.toList.take (path.toList.length - name.length) = directory := by
    rw [h.toList_eq, List.length_append, Nat.add_sub_cancel, List.take_left]
  rw [withEnding]
  simp only [h.takeWhile_reverse, List.reverse_reverse, hdirectory]
  exact String.toList_ofList

theorem IsNameIn.withEnding (h : IsNameIn path directory name) (hending : '/' ∉ ending.toList) :
    IsNameIn (withEnding path ending) directory (nameWithEnding name ending) where
  toList_eq := toList_withEnding h ending
  slash_not_mem := slash_not_mem_nameWithEnding h.slash_not_mem hending
  ends_in_slash := h.ends_in_slash

theorem IsNameIn.withEnding_eq_self_iff (h : IsNameIn path directory name)
    (hdot : '.' ∉ ending.toList) (hup : name ≠ ['.', '.']) :
    Ls8.withEnding path ending = path ↔ HasEnding path ending := by
  have hname : Ls8.withEnding path ending = path ↔ nameWithEnding name ending = name := by
    rw [← String.toList_inj, toList_withEnding h, h.toList_eq, List.append_cancel_left_eq]
  rw [hname, nameWithEnding_eq_self_iff hdot hup]
  constructor
  · rintro ⟨stem, rfl, hstem⟩
    exact ⟨directory, stem, h, hstem⟩
  · rintro ⟨_, stem, h', hstem⟩
    exact ⟨stem, h.name_unique h', hstem⟩

end

/-! ## A file beside another -/

section

variable {files after : Files} {path ending : String} {old new : List UInt8}
  (hdot : '.' ∉ ending.toList) (hread : files.read path = .ok old)

include hdot hread

/-- A file that is made beside another one leaves it alone, if that has not the same ending. -/
theorem read_create_withEnding (hslash : '/' ∉ ending.toList)
    (hcreate : files.create (withEnding path ending) new = .ok after)
    (hending : ¬HasEnding path ending) : after.read path = .ok old := by
  obtain ⟨directory, name, hpath⟩ := exists_isNameIn path
  obtain ⟨target, other, hfind, hspot, hfree⟩ := exists_target_of_read hread
  obtain ⟨here, hhere⟩ := exists_place files directory
  obtain ⟨hup, rfl⟩ := hhere _ _ _ _ hpath hfind hspot
  obtain ⟨-, ⟨made, place, hfound, hplace, rfl⟩ | ⟨-, rfl⟩⟩ := create_eq_ok_iff.mp hcreate
  · obtain ⟨-, rfl⟩ := hhere _ _ _ _ (hpath.withEnding hslash) hfound (Target.spot?_of_place? hplace)
    have hne : here ++ [String.ofList name] ≠ here ++ [String.ofList (nameWithEnding name ending)] := by
      intro heq
      have hname : nameWithEnding name ending = name :=
        (String.ofList_injective (List.singleton_inj.mp (List.append_cancel_left heq))).symm
      obtain ⟨stem, hstem⟩ := (nameWithEnding_eq_self_iff hdot hup).mp hname
      exact hending ⟨directory, stem, hstem.1 ▸ hpath, hstem.2⟩
    rw [read_put_of_ne hfind hspot hfree hne
      (canHold_of_follow (find_eq_ok_iff.mp hfound).2 hplace), hread]
  · exact hread

theorem create_withEnding (new : List UInt8) (hending : HasEnding path ending) :
    ∃ after, files.create (withEnding path ending) new = .ok after ∧ after.read path = .ok new := by
  obtain ⟨target, place, hfind, hspot, hfree⟩ := exists_target_of_read hread
  obtain ⟨directory, stem, hpath, hstem⟩ := id hending
  obtain ⟨here, hhere⟩ := exists_place files directory
  obtain ⟨hup, hplace⟩ := hhere _ _ _ _ hpath hfind hspot
  have hname : stem ++ '.' :: ending.toList ≠ [] := List.append_ne_nil_of_right_ne_nil _ nofun
  rw [(hpath.withEnding_eq_self_iff hdot hup).mpr hending]
  have hfile : target.place? = some place := by
    cases target with
    | file _ _ | free _ => exact hspot
    | directory => cases hspot
    | null =>
      -- the device's name has no ending
      rw [hplace] at hspot
      have hlast : "null" = String.ofList (stem ++ '.' :: ending.toList) := by
        simpa [nullDevice] using congrArg List.getLast? (Option.some.inj hspot)
      have hmem : '.' ∈ "null".toList := by
        rw [hlast, String.toList_ofList]
        exact List.mem_append_right _ List.mem_cons_self
      exact absurd hmem (by decide)
  exact ⟨_, create_eq_ok_iff.mpr ⟨hpath.withoutSlash_eq hname, .inl ⟨_, _, hfind, hfile, rfl⟩⟩,
    read_put hfind hfile⟩

end

end Ls8.Files
