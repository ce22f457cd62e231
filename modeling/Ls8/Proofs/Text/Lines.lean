import Mathlib.Data.List.DropRight
import Ls8.Text.Basic

/-!
# Cutting texts

What trimming leaves alone and takes off, and that a text made of lines with line feeds between them
or behind them is cut into these lines (`lines_intercalate`, `splitOn_lines`). Who does not look at
carriage returns and empty lines can cut at the line feeds alone (`filterMap_lines`).
-/

namespace Ls8.Text

/-! ## Trimming -/

theorem trimEnd_append_blank (cs : List Char) {post : List Char} (h : ∀ c ∈ post, isBlank c) :
    trimEnd (cs ++ post) = trimEnd cs := by
  rw [trimEnd, trimEnd, List.reverse_append, List.dropWhile_append_of_pos]
  intro c hc
  exact h c (List.mem_reverse.mp hc)

theorem trimEnd_eq_self {cs : List Char} (h : ∀ c ∈ cs.getLast?, isBlank c = false) :
    trimEnd cs = cs := by
  rcases List.eq_nil_or_concat cs with rfl | ⟨front, last, rfl⟩
  · rfl
  · have hlast : isBlank last = false := h last (by simp)
    rw [List.concat_eq_append, trimEnd, List.reverse_append, List.reverse_singleton,
      List.singleton_append, List.dropWhile_cons_of_neg (by simp [hlast])]
    simp

theorem dropWhile_blank {cs : List Char} (h : ∀ c ∈ cs, isBlank c) : cs.dropWhile isBlank = [] := by
  rw [← List.append_nil cs, List.dropWhile_append_of_pos h]
  rfl

theorem trim_append_blank (cs : List Char) {post : List Char} (h : ∀ c ∈ post, isBlank c) :
    trim (cs ++ post) = trim cs := by
  rw [trim, trim, List.dropWhile_append]
  split
  · rename_i hempty
    rw [dropWhile_blank h, List.isEmpty_iff.mp hempty]
  · exact trimEnd_append_blank _ h

theorem trim_eq_self {cs : List Char} (hhead : ∀ c ∈ cs.head?, isBlank c = false)
    (hlast : ∀ c ∈ cs.getLast?, isBlank c = false) : trim cs = cs := by
  cases cs with
  | nil => rfl
  | cons c cs =>
    have hc : isBlank c = false := hhead c rfl
    rw [trim, List.dropWhile_cons_of_neg (by simp [hc]), trimEnd_eq_self hlast]

section

variable {cs : List Char} {c : Char}

theorem exists_trimEnd_append (cs : List Char) :
    ∃ post, cs = trimEnd cs ++ post ∧ ∀ c ∈ post, isBlank c :=
  ⟨cs.rtakeWhile isBlank, List.rdropWhile_append_rtakeWhile.symm,
    fun _ => List.mem_rtakeWhile_imp⟩

theorem mem_of_mem_trim (h : c ∈ trim cs) : c ∈ cs :=
  (List.dropWhile_suffix isBlank).mem ((List.rdropWhile_prefix isBlank _).mem h)

theorem isBlank_of_mem_head?_dropWhile (h : c ∈ (cs.dropWhile isBlank).head?) :
    isBlank c = false := by
  have hnot := List.head?_dropWhile_not isBlank cs
  rwa [Option.mem_def.mp h] at hnot

theorem isBlank_of_mem_head?_trim (h : c ∈ (trim cs).head?) : isBlank c = false := by
  obtain ⟨post, hpost, _⟩ := exists_trimEnd_append (cs.dropWhile isBlank)
  have hhead : c ∈ (cs.dropWhile isBlank).head? := by
    rw [hpost, List.head?_append, ← trim, Option.mem_def.mp h]
    rfl
  exact isBlank_of_mem_head?_dropWhile hhead

theorem isBlank_of_mem_getLast?_trim (h : c ∈ (trim cs).getLast?) : isBlank c = false := by
  rw [trim, trimEnd, List.getLast?_reverse] at h
  exact isBlank_of_mem_head?_dropWhile h

theorem trim_trim (cs : List Char) : trim (trim cs) = trim cs :=
  trim_eq_self (fun _ => isBlank_of_mem_head?_trim) (fun _ => isBlank_of_mem_getLast?_trim)

end

theorem trim_trimEnd (cs : List Char) : trim (trimEnd cs) = trim cs := by
  obtain ⟨post, hpost, hblank⟩ := exists_trimEnd_append cs
  conv_rhs => rw [hpost, trim_append_blank _ hblank]

/-! ## Lines -/

theorem not_mem_of_mem_splitOn {s cs : List Char} (h : s ∈ cs.splitOn '\n') : '\n' ∉ s := by
  induction cs generalizing s with
  | nil =>
    cases List.mem_singleton.mp h
    exact List.not_mem_nil
  | cons c cs ih =>
    rw [List.splitOn_cons_eq_if_modifyHead] at h
    split at h
    · rcases List.mem_cons.mp h with rfl | h
      · exact List.not_mem_nil
      · exact ih h
    · rename_i hc
      cases hcut : cs.splitOn '\n' with
      | nil => exact absurd hcut (List.splitOn_ne_nil _ _)
      | cons first rest =>
        rw [hcut] at h ih
        rcases List.mem_cons.mp h with rfl | h
        · exact List.not_mem_cons_of_ne_of_not_mem (fun heq => hc (beq_iff_eq.mpr heq.symm))
            (ih List.mem_cons_self)
        · exact ih (List.mem_cons_of_mem _ h)

theorem dropReturn_eq_self {cs : List Char} (h : cs.getLast? ≠ some '\r') : dropReturn cs = cs :=
  if_neg h

theorem dropReturn_congr {α : Type} {f : List Char → α} (h : ∀ cs, f (cs ++ ['\r']) = f cs)
    (cs : List Char) : f (dropReturn cs) = f cs := by
  rw [dropReturn]
  split
  · rename_i hlast
    obtain ⟨front, rfl⟩ := List.getLast?_eq_some_iff.mp hlast
    rw [List.dropLast_concat, h]
  · rfl

theorem finishLines_eq_self {segments : List (List Char)}
    (hreturn : ∀ s ∈ segments, s.getLast? ≠ some '\r') (hlast : segments.getLast? ≠ some []) :
    finishLines segments = segments := by
  induction segments with
  | nil => rfl
  | cons s rest ih =>
    cases rest with
    | nil => simpa [finishLines] using hlast
    | cons t rest =>
      rw [finishLines, dropReturn_eq_self (hreturn s (by simp)),
        ih (fun s hs => hreturn s (List.mem_cons_of_mem _ hs)) (by simpa using hlast)]
      exact List.cons_ne_nil t rest

theorem lines_intercalate {segments : List (List Char)} (hfeed : ∀ s ∈ segments, '\n' ∉ s)
    (hreturn : ∀ s ∈ segments, s.getLast? ≠ some '\r') (hlast : segments.getLast? ≠ some []) :
    lines (['\n'].intercalate segments) = segments := by
  rw [lines]
  by_cases hnil : segments = []
  · subst hnil
    rfl
  · rw [List.splitOn_intercalate '\n' hfeed hnil]
    exact finishLines_eq_self hreturn hlast

theorem splitOn_lines {segments : List (List Char)} (hfeed : ∀ s ∈ segments, '\n' ∉ s) :
    (segments.flatMap (· ++ ['\n'])).splitOn '\n' = segments ++ [[]] := by
  induction segments with
  | nil => rfl
  | cons s rest ih =>
    obtain ⟨hs, hrest⟩ := List.forall_mem_cons.mp hfeed
    rw [List.flatMap_cons, List.append_assoc, List.singleton_append,
      List.splitOn_append_cons_self_of_not_mem hs, ih hrest, List.cons_append]

theorem lines_flatMap {segments : List (List Char)} (hfeed : ∀ s ∈ segments, '\n' ∉ s)
    (hreturn : ∀ s ∈ segments, s.getLast? ≠ some '\r') :
    lines (segments.flatMap (· ++ ['\n'])) = segments := by
  rw [lines, splitOn_lines hfeed]
  clear hfeed
  induction segments with
  | nil => rfl
  | cons s rest ih =>
    obtain ⟨hs, hrest⟩ := List.forall_mem_cons.mp hreturn
    rw [List.cons_append, finishLines, dropReturn_eq_self hs, ih hrest]
    exact List.append_ne_nil_of_right_ne_nil rest (List.cons_ne_nil [] [])

/-- Where neither a carriage return at the end nor an empty line makes a difference, the lines of a
text are as good as its segments. -/
theorem filterMap_lines {α : Type} {f : List Char → Option α} (hnil : f [] = none)
    (hreturn : ∀ s, f (s ++ ['\r']) = f s) (cs : List Char) :
    (lines cs).filterMap f = (cs.splitOn '\n').filterMap f := by
  rw [lines]
  induction cs.splitOn '\n' with
  | nil => rfl
  | cons s rest ih =>
    cases rest with
    | nil =>
      rw [finishLines]
      split
      · rename_i hempty
        rw [List.isEmpty_iff.mp hempty, List.filterMap_cons_none hnil]
      · rfl
    | cons t rest =>
      rw [finishLines, List.filterMap_cons, dropReturn_congr hreturn s, ih, ← List.filterMap_cons]
      exact List.cons_ne_nil t rest

end Ls8.Text
