import MonitorBench.Disk.Path
import MonitorBench.Proofs.Text.Pieces

/-!
# The extension that is put behind a path

When a dot and an extension are put behind a path, the last name of the path gets longer. It has
that extension then, unless there was no name to get longer: behind a slash, or with nothing in
front of it, the dot begins a name of its own, and such a name has no extension
(`extension?_dotted`). A path that is joined from others ends in a name if the last of them does.
-/

set_option autoImplicit false

namespace MonitorBench.Path

/-- A path ends in a name: it is not empty, and no slash is at its end. -/
def EndsInName (path : String) : Prop :=
  path ≠ "" ∧ endsInSlash path = false

instance (path : String) : Decidable (EndsInName path) :=
  inferInstanceAs (Decidable (_ ∧ _))

section EndsInName

variable {path : String}

/-- A path ends in a name when its last character is no slash. -/
theorem endsInName_iff_getLast? :
    EndsInName path ↔ ∃ c, path.toList.getLast? = some c ∧ c ≠ '/' := by
  rw [EndsInName, endsInSlash, ne_eq, ← String.toList_eq_nil_iff]
  cases last : path.toList.getLast? with
  | none => simp [List.getLast?_eq_none_iff.mp last]
  | some c =>
    have nonempty : path.toList ≠ [] := by
      intro nothing
      rw [nothing] at last
      cases last
    simp [nonempty]

/-- What ends in a name still does with more in front of it. -/
theorem endsInName_append (ends : EndsInName path) (above : String) :
    EndsInName (above ++ path) := by
  obtain ⟨c, last, no_slash⟩ := endsInName_iff_getLast?.mp ends
  refine endsInName_iff_getLast?.mpr ⟨c, ?_, no_slash⟩
  rw [String.toList_append, List.getLast?_append, last, Option.some_or]

/-- A joined path ends in a name if the path that is put last does. -/
theorem endsInName_join (ends : EndsInName path) (base : String) : EndsInName (join base path) := by
  rw [join]
  split
  next => exact ends
  next =>
    split
    next => exact endsInName_append ends base
    next => exact endsInName_append ends (base ++ "/")

/-- What follows the last slash of a path is the name that it ends in, if it ends in one. -/
theorem endsInName_iff {front name : List Char} (cut : path.toList = front ++ name)
    (no_slash : '/' ∉ name) (ended : front = [] ∨ ∃ init, front = init ++ ['/']) :
    EndsInName path ↔ name ≠ [] := by
  rw [endsInName_iff_getLast?, cut, List.getLast?_append]
  cases last : name.getLast? with
  | none =>
    have nothing : name = [] := List.getLast?_eq_none_iff.mp last
    rcases ended with rfl | ⟨init, rfl⟩
    · simp [nothing]
    · simp [nothing]
  | some c =>
    have inside : c ∈ name := List.mem_of_getLast? last
    refine iff_of_true ⟨c, rfl, ?_⟩ (List.ne_nil_of_mem inside)
    rintro rfl
    exact no_slash inside

end EndsInName

/-- A name that ends in an extension is neither idle nor the name of what is above. -/
theorem dotted_ne_dots {extension : List Char} (nonempty : extension ≠ [])
    (no_dot : '.' ∉ extension) (name : List Char) :
    isIdle (name ++ '.' :: extension) = false ∧ name ++ '.' :: extension ≠ ['.', '.'] := by
  cases name with
  | nil =>
    refine ⟨by simp [isIdle, nonempty], ?_⟩
    intro dots
    obtain rfl : extension = ['.'] := List.tail_eq_of_cons_eq dots
    exact no_dot List.mem_cons_self
  | cons c cs => simp [isIdle, nonempty, List.append_eq_cons_iff]

/-- The file name of a path that ends in an extension is all that follows the last slash. -/
theorem fileName?_dotted {front name extension : List Char} {path : String}
    (cut : path.toList = front ++ (name ++ '.' :: extension)) (nonempty : extension ≠ [])
    (no_dot : '.' ∉ extension) (no_slash : '/' ∉ name ++ '.' :: extension)
    (ended : front = [] ∨ ∃ init, front = init ++ ['/']) :
    fileName? path = some (name ++ '.' :: extension) := by
  obtain ⟨above, pieces⟩ := Text.exists_splitOn_append ended
  obtain ⟨busy, no_dots⟩ := dotted_ne_dots nonempty no_dot name
  have last : lastPieces path = (name ++ '.' :: extension) :: above.reverse := by
    rw [lastPieces, cut, pieces _ no_slash, List.reverse_append, List.reverse_singleton,
      List.singleton_append, List.dropWhile_cons_of_neg (by simp [busy])]
  simp only [fileName?, last]
  rw [if_neg]
  simp [busy, no_dots]

/-- A path with a dot and an extension behind it has this extension, unless the dot begins the last
name; then it has none. -/
theorem extension?_dotted {extension : String} (nonempty : extension ≠ "")
    (no_dot : '.' ∉ extension.toList) (no_slash : '/' ∉ extension.toList) (path : String) :
    extension? (path ++ "." ++ extension) = if EndsInName path then some extension else none := by
  obtain ⟨front, name, cut, inside, ended⟩ := Text.exists_after_last '/' path.toList
  have longer : (path ++ "." ++ extension).toList = front ++ (name ++ '.' :: extension.toList) := by
    simp [String.toList_append, cut]
  have one_name : '/' ∉ name ++ '.' :: extension.toList := by
    simp [inside, no_slash]
  have named := fileName?_dotted longer (by simpa using nonempty) no_dot one_name ended
  have pieces : (Text.splitOn '.' (name ++ '.' :: extension.toList)).reverse =
      extension.toList :: (Text.splitOn '.' name).reverse := by
    rw [Text.splitOn_append_cons, Text.splitOn_of_not_mem no_dot, List.reverse_append]
    rfl
  have begins : ((Text.splitOn '.' name).reverse == [] ||
      (Text.splitOn '.' name).reverse == [[]]) = decide (name = []) := by
    rw [Bool.eq_iff_iff, Bool.or_eq_true, beq_iff_eq, beq_iff_eq, decide_eq_true_iff,
      List.reverse_eq_nil_iff, List.reverse_eq_iff, List.reverse_singleton,
      Text.splitOn_eq_singleton_nil_iff]
    exact or_iff_right (Text.splitOn_ne_nil '.' name)
  rw [extension?, named]
  simp only [pieces, begins, endsInName_iff cut inside ended, String.ofList_toList]
  by_cases nothing : name = []
  · simp [nothing]
  · simp [nothing]

end MonitorBench.Path
