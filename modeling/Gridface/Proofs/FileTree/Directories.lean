import Gridface.Proofs.FileTree
import Gridface.Proofs.Path

/-!
# Writing into a directory

Directories that have been created are there for what follows: a plain name behind their path stands
in them, and nowhere else.
-/

namespace Gridface.FileTree

variable {t t' : FileTree} {start dir place : Place} {node : Node} {path name : String}
  {front tail rest : List String} {slash : Bool}

/-- The place that a path starts from. -/
def startOf (t : FileTree) (path : String) : Place :=
  if Path.isAbsolute path then root else t.workingDir

/-- The parts of a path between its slashes. -/
def parts (path : String) : List String := (Text.splitAt '/' path.toList).map String.ofList

/-- The path leads to a directory; the empty path leads to the working directory. -/
def LeadsTo (t : FileTree) (path : String) (dir : Place) : Prop :=
  ∃ slash, t.walk (t.startOf path) .directory (parts path) = .ok (.found dir .directory slash)

/-! ## Walking on from a directory -/

theorem walk_idle (h : t.walk start node tail = .ok (.found dir .directory slash))
    (htail : ∀ name ∈ tail, name = "") : start = dir ∧ node = .directory := by
  induction tail with
  | nil =>
      cases h
      exact ⟨rfl, rfl⟩
  | cons name tail ih =>
      obtain ⟨hname, htail⟩ := List.forall_mem_cons.mp htail
      rw [walk] at h
      split at h
      · rename_i hfile
        split at h
        · cases h
          exact absurd rfl hfile
        · cases h
      · rw [if_pos (.inl hname)] at h
        exact ih h htail

/-- On the way to a directory every part leads on to a place, whatever comes after it. -/
theorem walk_cons (h : t.walk start node (name :: rest) = .ok (.found dir .directory slash)) :
    ∃ start' node', ∀ rest, t.walk start node (name :: rest) = t.walk start' node' rest := by
  rw [walk] at h
  split at h
  · rename_i hfile
    split at h
    · cases h
      exact absurd rfl hfile
    · cases h
  · rename_i hdirectory
    split at h
    · rename_i hidle
      refine ⟨start, node, fun rest => ?_⟩
      rw [walk, if_neg hdirectory, if_pos hidle]
    · rename_i hidle
      split at h
      · rename_i hup
        refine ⟨start.dropLast, .directory, fun rest => ?_⟩
        rw [walk, if_neg hdirectory, if_neg hidle, if_pos hup]
      · rename_i hup
        split at h
        · cases h
        · rename_i hshort
          split at h
          · rename_i next hnext
            refine ⟨start ++ [name], next, fun rest => ?_⟩
            rw [walk, if_neg hdirectory, if_neg hidle, if_neg hup, if_neg hshort, hnext]
          · split at h
            · cases h
            · cases h

/-- What comes after the parts that lead to a directory is walked from there. -/
theorem walk_append (h : t.walk start node (front ++ tail) = .ok (.found dir .directory slash))
    (htail : ∀ name ∈ tail, name = "") (rest : List String) :
    t.walk start node (front ++ rest) = t.walk dir .directory rest := by
  induction front generalizing start node with
  | nil =>
      obtain ⟨rfl, rfl⟩ := walk_idle h htail
      rfl
  | cons name front ih =>
      obtain ⟨start', node', hstep⟩ := walk_cons h
      rw [List.cons_append, hstep] at h ⊢
      exact ih h

theorem walk_idle_from (htail : ∀ name ∈ tail, name = "") (dir : Place) :
    t.walk dir .directory tail = .ok (.found dir .directory false) := by
  induction tail with
  | nil => rfl
  | cons name tail ih =>
      obtain ⟨hname, htail⟩ := List.forall_mem_cons.mp htail
      rw [walk, if_neg (not_not_intro rfl), if_pos (.inl hname)]
      exact ih htail

/-- A directory that is put where nothing was is found on the same way. -/
theorem walk_put_directory (h : t.walk start node rest = .ok (.fresh place slash)) :
    (t.put place .directory).walk start node rest = .ok (.found place .directory false) := by
  obtain ⟨hnone, hroot⟩ := node?_of_fresh h
  fun_induction walk t start node rest
  case case4 hdirectory hidle ih =>
    rw [walk, if_neg hdirectory, if_pos hidle]
    exact ih h
  case case5 hdirectory hidle ih =>
    rw [walk, if_neg hdirectory, if_neg hidle, if_pos rfl]
    exact ih h
  case case7 start node name rest hdirectory hidle hup hshort next hnext ih =>
    -- what is on the way is there, and nothing was at the place
    have hne : start ++ [name] ≠ place := by
      rintro rfl
      rw [hnone] at hnext
      cases hnext
    rw [walk, if_neg hdirectory, if_neg hidle, if_neg hup, if_neg hshort, node?_put_of_ne t _ hne,
      hnext]
    exact ih h
  case case8 start node name rest hdirectory hidle hup hshort hnext hlast =>
    cases h
    rw [walk, if_neg hdirectory, if_neg hidle, if_neg hup, if_neg hshort, node?_put_self t _ hroot]
    exact walk_idle_from (by simpa using hlast) _
  all_goals cases h

/-! ## Directories that are created -/

theorem leadsTo_of_locate (h : t.locate path = .ok (.found dir .directory slash)) :
    t.LeadsTo path dir := ⟨slash, (locate_eq_ok.mp h).2⟩

theorem leadsTo_of_createDir (h : t.createDir path = .ok t') : ∃ dir, t'.LeadsTo path dir := by
  obtain ⟨place, slash, hfresh, rfl⟩ := createDir_eq_ok h
  exact ⟨place, false, walk_put_directory (locate_eq_ok.mp hfresh).2⟩

theorem leadsTo_of_ensureDir (h : t.ensureDir path = (.ok (), t')) :
    ∃ dir, t'.LeadsTo path dir := by
  unfold ensureDir at h
  split at h
  · rename_i hcreated
    cases h
    exact leadsTo_of_createDir hcreated
  · split at h
    · rename_i hdirectory
      cases h
      unfold isDirectory at hdirectory
      split at hdirectory
      · rename_i hfound
        exact ⟨_, leadsTo_of_locate hfound⟩
      · cases hdirectory
    · cases h

/-- The empty path leads to the working directory. -/
theorem leadsTo_nil (t : FileTree) : t.LeadsTo "" t.workingDir := ⟨false, rfl⟩

/-- If directories have been created, the path leads to one. -/
theorem leadsTo_of_createDirs (h : t.createDirs path = (.ok (), t')) :
    ∃ dir, t'.LeadsTo path dir := by
  unfold createDirs at h
  generalize path.length + 1 = levels at h
  cases levels with
  | zero => exact leadsTo_of_ensureDir h
  | succ levels =>
      unfold createDirsWithin at h
      split at h
      · rename_i hempty
        cases h
        exact ⟨_, hempty ▸ leadsTo_nil t⟩
      · split at h
        · split at h
          · exact leadsTo_of_ensureDir h
          · rename_i hfailed
            exact absurd h (hfailed _)
        · exact leadsTo_of_ensureDir h

/-! ## A name in a directory -/

theorem startOf_join (h : Path.IsPlain name) (t : FileTree) (path : String) :
    t.startOf (Path.join path name) = t.startOf path := by
  rw [startOf, startOf, Path.isAbsolute_join h]

theorem parts_join (h : Path.IsPlain name) (path : String) :
    ∃ front tail, parts path = front ++ tail ∧ (∀ name ∈ tail, name = "") ∧
      parts (Path.join path name) = front ++ [name] := by
  obtain ⟨front, tail, hpath, htail, hjoin⟩ := Path.splitAt_join h path
  refine ⟨front.map String.ofList, tail.map String.ofList, ?_, ?_, ?_⟩
  · rw [parts, hpath, List.map_append]
  · intro name hname
    obtain ⟨idle, hidle, rfl⟩ := List.mem_map.mp hname
    rw [htail idle hidle]
  · rw [parts, hjoin, List.map_append, List.map_singleton, String.ofList_toList]

theorem walk_join (h : Path.IsPlain name) (hdir : t.LeadsTo path dir) :
    t.walk (t.startOf (Path.join path name)) .directory (parts (Path.join path name)) =
      t.walk dir .directory [name] := by
  obtain ⟨slash, hdir⟩ := hdir
  obtain ⟨front, tail, hpath, htail, hjoin⟩ := parts_join h path
  rw [hpath] at hdir
  rw [startOf_join h, hjoin]
  exact walk_append hdir htail [name]

theorem locate_join (h : Path.IsPlain name) (hdir : t.LeadsTo path dir) :
    t.locate (Path.join path name) = .error .nulInPath ∨
      t.locate (Path.join path name) = .error .nameTooLong ∨
      t.locate (Path.join path name) = t.walk dir .directory [name] := by
  have hempty : ¬(Path.join path name).toList.isEmpty = true :=
    mt List.isEmpty_iff.mp (Path.join_ne_nil h path)
  unfold locate
  dsimp only
  rw [if_neg hempty]
  split
  · exact .inl rfl
  · split
    · exact .inr (.inl rfl)
    · exact .inr (.inr (walk_join h hdir))

/-- A name in a directory is too long, or that of a directory, or a file can be put there. -/
theorem walk_name (h : Path.IsPlain name) (hup : name ≠ "..") (t : FileTree) (dir : Place) :
    t.walk dir .directory [name] = .error .nameTooLong ∨
      t.walk dir .directory [name] = .ok (.found (dir ++ [name]) .directory false) ∨
      ∃ target, t.walk dir .directory [name] = .ok target ∧ target.TakesFile (dir ++ [name]) := by
  have hidle : ¬(name = "" ∨ name = ".") := by
    rintro (rfl | rfl)
    · exact h.ne_nil rfl
    · cases h.not_idle
  rw [walk, if_neg (not_not_intro rfl), if_neg hidle, if_neg hup]
  split
  · exact .inl rfl
  · split
    · rename_i node hnode
      cases node with
      | directory => exact .inr (.inl rfl)
      | file content => exact .inr (.inr ⟨_, rfl, rfl⟩)
    · exact .inr (.inr ⟨_, rfl, rfl⟩)

theorem write_of_locate_error {problem : FileProblem} (h : t.locate path = .error problem)
    (content : Content) : t.write path content = .error problem := by
  rw [write, h]
  rfl

/-- The reasons for which a file cannot be put into a directory that is there. -/
def Obstructs (problem : FileProblem) : Prop :=
  problem = .nulInPath ∨ problem = .nameTooLong ∨ problem = .isADirectory

/-- What is written to a name behind the path of a directory is put into this directory. -/
theorem write_join (h : Path.IsPlain name) (hup : name ≠ "..") (hdir : t.LeadsTo path dir)
    (content : Content) :
    t.write (Path.join path name) content = .ok (t.put (dir ++ [name]) (.file content)) ∨
      ∃ problem, Obstructs problem ∧ t.write (Path.join path name) content = .error problem := by
  rcases locate_join h hdir with hlocate | hlocate | hlocate
  · exact .inr ⟨_, .inl rfl, write_of_locate_error hlocate content⟩
  · exact .inr ⟨_, .inr (.inl rfl), write_of_locate_error hlocate content⟩
  · rcases walk_name h hup t dir with hwalk | hwalk | ⟨target, hwalk, htakes⟩
    · rw [hwalk] at hlocate
      exact .inr ⟨_, .inr (.inl rfl), write_of_locate_error hlocate content⟩
    · rw [hwalk] at hlocate
      refine .inr ⟨_, .inr (.inr rfl), ?_⟩
      rw [write, hlocate]
      rfl
    · rw [hwalk] at hlocate
      exact .inl (write_of_takesFile hlocate htakes content)

end Gridface.FileTree
