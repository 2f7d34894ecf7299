import Gridface.FileTree

/-!
# What an operation changes in a file tree

Writing a file changes what stands at one place, which is where the path leads to afterwards as
before. Creating directories adds directories where nothing has been.
-/

namespace Gridface.FileTree

variable {t t' : FileTree} {place other start : Place} {content : Content} {path : String}

/-! ## Putting a node at a place -/

theorem lookup_filter_ne {nodes : List (Place × Node)} (hne : other ≠ place) :
    (nodes.filter fun n => n.1 != place).lookup other = nodes.lookup other := by
  induction nodes with
  | nil => rfl
  | cons n nodes ih =>
      obtain ⟨p, node⟩ := n
      by_cases hp : p = place
      · have hother : (other == place) = false := beq_eq_false_iff_ne.mpr hne
        simp [hp, hother, ih, List.lookup_cons]
      · simp [hp, ih, List.lookup_cons]

theorem node?_put_self (t : FileTree) (node : Node) (hplace : place ≠ root) :
    (t.put place node).node? place = some node := by
  rw [node?, if_neg hplace]
  simp [put]

theorem node?_put_of_ne (t : FileTree) (node : Node) (hne : other ≠ place) :
    (t.put place node).node? other = t.node? other := by
  have hother : (other == place) = false := beq_eq_false_iff_ne.mpr hne
  simp only [node?, put, List.lookup_cons, hother, lookup_filter_ne hne]

/-! ## Where a file is written -/

/-- There is a file at the place, or a new one can be put there. -/
def Target.TakesFile (place : Place) : Target → Prop
  | .found p (.file _) false => p = place
  | .fresh p false => p = place
  | _ => False

/-- The name of something in a directory. -/
structure IsName (name : String) : Prop where
  not_idle : ¬(name = "" ∨ name = ".")
  not_up : name ≠ ".."
  short : ¬longestName < name.utf8ByteSize

/-- The components lead from a directory to a place that is no directory. -/
inductive Leads (t : FileTree) (place : Place) : Place → List String → Prop
  | idle {start : Place} {name : String} {rest : List String} (hname : name = "" ∨ name = ".")
      (h : Leads t place start rest) : Leads t place start (name :: rest)
  | up {start : Place} {rest : List String} (h : Leads t place start.dropLast rest) :
      Leads t place start (".." :: rest)
  | down {start : Place} {name : String} {rest : List String} (hname : IsName name)
      (hnode : t.node? (start ++ [name]) = some .directory)
      (h : Leads t place (start ++ [name]) rest) : Leads t place start (name :: rest)
  | last {start : Place} {name : String} (hname : IsName name) (hplace : start ++ [name] = place)
      (hnode : t.node? place ≠ some .directory) : Leads t place start [name]

theorem walk_file {c : Content} {cs : List String} {target : Target}
    (h : t.walk start (.file c) cs = .ok target) (htakes : target.TakesFile place) :
    cs = [] ∧ start = place := by
  cases cs with
  | nil =>
      cases h
      exact ⟨rfl, htakes⟩
  | cons name rest =>
      rw [walk, if_pos (by simp)] at h
      split at h
      · cases h
        cases htakes
      · cases h

theorem leads_of_walk {cs : List String} {target : Target}
    (h : t.walk start .directory cs = .ok target) (htakes : target.TakesFile place) :
    Leads t place start cs := by
  induction cs generalizing start with
  | nil =>
      cases h
      cases htakes
  | cons name rest ih =>
      simp only [walk, ne_eq, not_true_eq_false, ite_false] at h
      split at h
      · exact .idle ‹_› (ih h)
      · split at h
        · rename_i hup
          exact hup ▸ .up (ih h)
        · split at h
          · cases h
          · have hname : IsName name := ⟨‹_›, ‹_›, ‹_›⟩
            split at h
            · rename_i node hnode
              cases node with
              | directory => exact .down hname hnode (ih h)
              | file c =>
                  obtain ⟨rfl, rfl⟩ := walk_file h htakes
                  exact .last hname rfl (by simp [hnode])
            · rename_i hnode
              split at h
              · cases h
                cases rest with
                | nil =>
                    obtain rfl : start ++ [name] = place := htakes
                    exact .last hname rfl (by simp [hnode])
                | cons name' rest => cases htakes
              · cases h

namespace Leads

theorem node?_ne {cs : List String} (h : Leads t place start cs) :
    t.node? place ≠ some .directory := by
  induction h with
  | idle _ _ ih => exact ih
  | up _ ih => exact ih
  | down _ _ _ ih => exact ih
  | last _ _ hnode => exact hnode

/-- With a file put where the components lead to, they lead to that file. -/
theorem walk_put {cs : List String} (h : Leads t place start cs) (content : Content) :
    (t.put place (.file content)).walk start .directory cs =
      .ok (.found place (.file content) false) := by
  induction h with
  | idle hname _ ih =>
      rw [walk, if_neg (by simp), if_pos hname]
      exact ih
  | up _ ih =>
      rw [walk, if_neg (by simp), if_neg (by decide), if_pos rfl]
      exact ih
  | @down start name rest hname hnode hrest ih =>
      -- a directory on the way is not the place that is written to.
      have hne : start ++ [name] ≠ place := fun he => hrest.node?_ne (he ▸ hnode)
      rw [walk, if_neg (by simp), if_neg hname.not_idle, if_neg hname.not_up, if_neg hname.short,
        node?_put_of_ne t _ hne, hnode]
      exact ih
  | @last start name hname hplace _ =>
      have hroot : place ≠ root := by
        rw [← hplace]
        simp [root]
      rw [walk, if_neg (by simp), if_neg hname.not_idle, if_neg hname.not_up, if_neg hname.short,
        hplace, node?_put_self t _ hroot]
      rfl

end Leads

/-! ## Writing a file -/

/-- A file that has been written is where its path leads to, and all else is as it was. -/
structure Written (t : FileTree) (path : String) (content : Content) (t' : FileTree) : Prop where
  workingDir_eq : t'.workingDir = t.workingDir
  exists_place : ∃ place, t'.locate path = .ok (.found place (.file content) false) ∧
    ∀ other, other ≠ place → t'.node? other = t.node? other

theorem locate_eq_ok {target : Target} :
    t.locate path = .ok target ↔
      (path.toList.contains '\x00' = false ∧ path.toList.isEmpty = false ∧
        path.utf8ByteSize < pathLimit) ∧
      t.walk (if Path.isAbsolute path then root else t.workingDir) .directory
        ((Text.splitAt '/' path.toList).map String.ofList) = .ok target := by
  unfold locate
  dsimp only
  split
  · rename_i hnul
    exact iff_of_false nofun fun h => by rw [h.1.1] at hnul; cases hnul
  · rename_i hnul
    split
    · rename_i hempty
      exact iff_of_false nofun fun h => by rw [h.1.2.1] at hempty; cases hempty
    · rename_i hempty
      split
      · rename_i hlength
        exact iff_of_false nofun fun h => Nat.not_lt.mpr hlength h.1.2.2
      · rename_i hlength
        have hpath : path.toList.contains '\x00' = false ∧ path.toList.isEmpty = false ∧
            path.utf8ByteSize < pathLimit :=
          ⟨eq_false_of_ne_true hnul, eq_false_of_ne_true hempty, Nat.not_le.mp hlength⟩
        exact (and_iff_right hpath).symm

theorem locate_put {target : Target} (h : t.locate path = .ok target)
    (htakes : target.TakesFile place) (content : Content) :
    (t.put place (.file content)).locate path = .ok (.found place (.file content) false) := by
  rw [locate_eq_ok] at h ⊢
  exact ⟨h.1, (leads_of_walk h.2 htakes).walk_put content⟩

theorem write_of_takesFile {target : Target} (h : t.locate path = .ok target)
    (htakes : target.TakesFile place) (content : Content) :
    t.write path content = .ok (t.put place (.file content)) := by
  unfold write
  rw [h]
  cases target with
  | found p node slash =>
      cases node with
      | directory => cases htakes
      | file c =>
          cases slash with
          | true => cases htakes
          | false => exact htakes ▸ rfl
  | fresh p slash =>
      cases slash with
      | true => cases htakes
      | false => exact htakes ▸ rfl

theorem write_eq_ok (h : t.write path content = .ok t') :
    ∃ target place, t.locate path = .ok target ∧ target.TakesFile place ∧
      t.put place (.file content) = t' := by
  unfold write at h
  cases htarget : t.locate path with
  | error problem =>
      rw [htarget] at h
      cases h
  | ok target =>
      rw [htarget] at h
      cases target with
      | found place node slash =>
          cases node with
          | directory => cases h
          | file c =>
              cases slash with
              | true => cases h
              | false =>
                  cases h
                  exact ⟨_, place, rfl, rfl, rfl⟩
      | fresh place slash =>
          cases slash with
          | true => cases h
          | false =>
              cases h
              exact ⟨_, place, rfl, rfl, rfl⟩

theorem written_of_write (h : t.write path content = .ok t') : Written t path content t' := by
  obtain ⟨target, place, htarget, htakes, rfl⟩ := write_eq_ok h
  exact ⟨rfl, place, locate_put htarget htakes content, fun other => node?_put_of_ne t _⟩

theorem read_of_locate (h : t.locate path = .ok (.found place (.file content) false)) :
    t.read path = .ok content := by
  unfold read
  rw [h]
  rfl

/-! ## Creating directories -/

/-- `t'` is `t` with perhaps some directories more. -/
structure Furnished (t t' : FileTree) : Prop where
  workingDir_eq : t'.workingDir = t.workingDir
  node?_eq : ∀ place, t'.node? place = t.node? place ∨
    t.node? place = none ∧ t'.node? place = some .directory

theorem Furnished.refl (t : FileTree) : Furnished t t := ⟨rfl, fun _ => Or.inl rfl⟩

theorem Furnished.trans {t'' : FileTree} (h : Furnished t t') (h' : Furnished t' t'') :
    Furnished t t'' := by
  refine ⟨h'.workingDir_eq.trans h.workingDir_eq, fun place => ?_⟩
  rcases h.node?_eq place with hsame | ⟨hnone, hnew⟩
  · rw [← hsame]
    exact h'.node?_eq place
  · rcases h'.node?_eq place with hsame' | ⟨hnone', -⟩
    · exact Or.inr ⟨hnone, hsame'.trans hnew⟩
    · rw [hnew] at hnone'
      cases hnone'

theorem node?_of_fresh {node : Node} {cs : List String} {slash : Bool}
    (h : t.walk start node cs = .ok (.fresh place slash)) :
    t.node? place = none ∧ place ≠ root := by
  fun_induction walk t start node cs
  case case4 ih | case5 ih | case7 ih => exact ih h
  case case8 hnode _ =>
    cases h
    exact ⟨hnode, by simp [root]⟩
  all_goals cases h

theorem createDir_eq_ok (h : t.createDir path = .ok t') :
    ∃ place slash, t.locate path = .ok (.fresh place slash) ∧ t' = t.put place .directory := by
  unfold createDir at h
  cases htarget : t.locate path with
  | error problem =>
      rw [htarget] at h
      cases h
  | ok target =>
      rw [htarget] at h
      cases target with
      | found place node slash => cases h
      | fresh place slash =>
          cases h
          exact ⟨place, slash, rfl, rfl⟩

theorem furnished_createDir (h : t.createDir path = .ok t') : Furnished t t' := by
  obtain ⟨place, slash, hfresh, rfl⟩ := createDir_eq_ok h
  obtain ⟨hnone, hroot⟩ := node?_of_fresh (locate_eq_ok.mp hfresh).2
  refine ⟨rfl, fun other => ?_⟩
  by_cases hother : other = place
  · subst hother
    exact Or.inr ⟨hnone, node?_put_self t _ hroot⟩
  · exact Or.inl (node?_put_of_ne t _ hother)

theorem furnished_ensureDir (t : FileTree) (path : String) :
    Furnished t (t.ensureDir path).2 := by
  unfold ensureDir
  cases h : t.createDir path with
  | ok t' => exact furnished_createDir h
  | error problem => exact .refl t

/-- Creating directories, even if it fails, does nothing but add directories. -/
theorem furnished_createDirs (t : FileTree) (path : String) :
    Furnished t (t.createDirs path).2 := by
  unfold createDirs
  generalize path.length + 1 = levels
  induction levels generalizing t path with
  | zero => exact furnished_ensureDir t path
  | succ levels ih =>
      unfold createDirsWithin
      split
      · exact .refl t
      · have hfirst := furnished_ensureDir t path
        split
        · rename_i t₁ above hensure _
          rw [hensure] at hfirst
          have habove := ih t₁ above
          split
          · rename_i t₂ hcreated
            rw [hcreated] at habove
            exact (hfirst.trans habove).trans (furnished_ensureDir t₂ path)
          · exact hfirst.trans habove
        · exact hfirst

/-! ## A file in a new directory -/

/-- A path leads to a file with the given content, and all else is as it was, but for directories
where nothing was. -/
structure Delivered (t : FileTree) (path : String) (content : Content) (t' : FileTree) :
    Prop where
  read_eq : t'.read path = .ok content
  exists_place : ∃ place, t'.locate path = .ok (.found place (.file content) false) ∧
    ∀ other, other ≠ place → t'.node? other = t.node? other ∨
      t.node? other = none ∧ t'.node? other = some .directory

theorem Furnished.delivered {t₁ : FileTree} (h : Furnished t t₁)
    (hwrite : t₁.write path content = .ok t') : Delivered t path content t' := by
  obtain ⟨-, place, hplace, hother⟩ := written_of_write hwrite
  refine ⟨read_of_locate hplace, place, hplace, fun other hne => ?_⟩
  rw [hother other hne]
  exact h.node?_eq other

end Gridface.FileTree
