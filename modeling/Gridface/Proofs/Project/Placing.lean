import Gridface.Proofs.FileTree.Directories
import Gridface.Proofs.Project.Saving
import Mathlib

/-!
# Where the font is put

The font stands in the output directory under the name of its family, if that name holds no slash.
With a slash in it, it is a path of its own.
-/

namespace Gridface

namespace Plan

variable {p : Plan}

theorem toList_fileName (p : Plan) :
    p.fileName.toList = p.naming.family.toList ++ ['.', 't', 't', 'f'] := by
  rw [fileName, String.toList_append]
  rfl

theorem four_le_length_fileName (p : Plan) : 4 ≤ p.fileName.toList.length := by
  rw [toList_fileName, List.length_append]
  exact Nat.le_add_left _ _

theorem isPlain_fileName (h : '/' ∉ p.naming.family.toList) : Path.IsPlain p.fileName := by
  have hlength := p.four_le_length_fileName
  constructor
  case no_slash =>
    rw [toList_fileName, List.mem_append]
    rintro (hfamily | hending)
    · exact h hfamily
    · exact absurd hending (by decide)
  case not_idle =>
    rw [Path.isIdle, Bool.or_eq_false_iff, List.isEmpty_eq_false_iff, beq_eq_false_iff_ne]
    constructor
    · intro hempty
      rw [hempty] at hlength
      exact absurd hlength (by decide)
    · intro hdot
      rw [hdot] at hlength
      exact absurd hlength (by decide)

theorem fileName_ne_up (p : Plan) : p.fileName ≠ ".." := by
  intro hup
  have hlength := p.four_le_length_fileName
  rw [hup] at hlength
  exact absurd hlength (by decide)

/-- The path of the font is one component longer than that of its directory, if no slash is in the
way; a path has no components with a slash but the root. -/
theorem components_artifactPath_iff :
    Path.components p.artifactPath = Path.components p.outputDir ++ [p.fileName.toList] ↔
      '/' ∉ p.naming.family.toList := by
  constructor
  · intro heq hslash
    have hmem : p.fileName.toList ∈ Path.components p.artifactPath :=
      heq ▸ List.mem_append_right _ List.mem_cons_self
    rcases Path.mem_components hmem with hroot | hnone
    · have hlength := p.four_le_length_fileName
      rw [hroot] at hlength
      exact absurd hlength (by decide)
    · rw [toList_fileName] at hnone
      exact hnone (List.mem_append_left _ hslash)
  · intro h
    exact Path.components_join (isPlain_fileName h) p.outputDir

/-- Whatever is written as the font is put into the output directory. -/
theorem write_artifact (h : '/' ∉ p.naming.family.toList) {tree : FileTree} {dir : Place}
    (hdir : tree.LeadsTo p.outputDir dir) (content : Content) :
    tree.write p.artifactPath content = .ok (tree.put (dir ++ [p.fileName]) (.file content)) ∨
      ∃ problem, FileTree.Obstructs problem ∧ tree.write p.artifactPath content = .error problem :=
  FileTree.write_join (isPlain_fileName h) p.fileName_ne_up hdir content

end Plan

namespace Project

variable {library : FontLibrary} {p : Project} {s s' : Site}

/-- The ways in which saving can end if it writes to nothing but a file in the output directory: the
files stay as they are, or there are just directories more, or the font is in the directory that the
path of the output leads to. -/
inductive SavesInside (library : FontLibrary) (p : Project) (s : Site) :
    Except Fault String → FileTree → Prop
  | unmade {e : Fault} (font : (p.compile library).1.outcome = .error e) :
      SavesInside library p s (.error e) s.tree
  | noDirectory {problem : FileProblem} {tree : FileTree}
      (dirs : s.tree.createDirs p.plan.outputDir = (.error problem, tree))
      (furnished : FileTree.Furnished s.tree tree) :
      SavesInside library p s (.error (.file p.plan.outputDir problem)) tree
  | obstructed {problem : FileProblem} {tree : FileTree} {dir : Place}
      (furnished : FileTree.Furnished s.tree tree) (leads : tree.LeadsTo p.plan.outputDir dir)
      (reason : FileTree.Obstructs problem) :
      SavesInside library p s (.error (.file p.plan.artifactPath problem)) tree
  | saved {c : Compiled} {tree : FileTree} {dir : Place}
      (font : (p.compile library).1.outcome = .ok c)
      (furnished : FileTree.Furnished s.tree tree) (leads : tree.LeadsTo p.plan.outputDir dir) :
      SavesInside library p s (.ok p.plan.artifactPath)
        (tree.put (dir ++ [p.plan.fileName]) (.file (.ofFont c.font)))

theorem SaveEnds.savesInside {outcome : Except Fault String} (h : SaveEnds library p s outcome s')
    (hfamily : '/' ∉ p.plan.naming.family.toList) : SavesInside library p s outcome s'.tree := by
  have hfurnished := s.tree.furnished_createDirs p.plan.outputDir
  cases h with
  | unmade hfont => exact .unmade hfont
  | noDirectory _ hdirs =>
      rw [hdirs] at hfurnished
      exact .noDirectory hdirs hfurnished
  | unwritten _ hdirs hwrite =>
      rw [hdirs] at hfurnished
      obtain ⟨dir, hdir⟩ := FileTree.leadsTo_of_createDirs hdirs
      rcases Plan.write_artifact hfamily hdir _ with hput | ⟨problem, hobstructs, hfailed⟩
      · rw [hwrite] at hput
        cases hput
      · rw [hwrite] at hfailed
        cases hfailed
        exact .obstructed hfurnished hdir hobstructs
  | written hfont hdirs hwrite =>
      rw [hdirs] at hfurnished
      obtain ⟨dir, hdir⟩ := FileTree.leadsTo_of_createDirs hdirs
      rcases Plan.write_artifact hfamily hdir _ with hput | ⟨problem, -, hfailed⟩
      · rw [hwrite] at hput
        cases hput
        exact .saved hfont hfurnished hdir
      · rw [hwrite] at hfailed
        cases hfailed

end Project

/-- The path of the font is the output directory and one component more just if the name of the
family holds no slash. Then saving writes to no file outside this directory, and to no directory
that is not there. -/
theorem font_in_output_directory (p : Project) (library : FontLibrary) (s : Site) :
    (Path.components p.plan.artifactPath =
        Path.components p.plan.outputDir ++ [p.plan.fileName.toList] ↔
      '/' ∉ p.plan.naming.family.toList) ∧
    ('/' ∉ p.plan.naming.family.toList →
      Project.SavesInside library p s (p.save Site.host library s).1.1.outcome
        (p.save Site.host library s).2.tree) :=
  ⟨Plan.components_artifactPath_iff, fun hfamily => (p.save_ends library s).2.savesInside hfamily⟩

/-- A project of a plan alone. -/
def sampleProject (plan : Plan) : Project := { plan, annotations := .empty, sheets := [] }

theorem font_in_dist :
    Path.components (sampleProject samplePlan).plan.artifactPath =
        [['d', 'i', 's', 't'], "Tiny.ttf".toList] ∧
      ((sampleProject samplePlan).save Site.host .standard sampleSite).1.1.outcome.toOption =
        some "dist/Tiny.ttf" ∧
      Project.SavesInside .standard (sampleProject samplePlan) sampleSite
        ((sampleProject samplePlan).save Site.host .standard sampleSite).1.1.outcome
        ((sampleProject samplePlan).save Site.host .standard sampleSite).2.tree := by
  have hfamily : '/' ∉ (sampleProject samplePlan).plan.naming.family.toList := by decide
  obtain ⟨hcomponents, hsaves⟩ :=
    font_in_output_directory (sampleProject samplePlan) .standard sampleSite
  exact ⟨(hcomponents.mpr hfamily).trans (by decide), by decide +kernel, hsaves hfamily⟩

/-- A plan for a family of the given name. -/
def samplePlanText (family : String) : String :=
  "family = \"" ++ family ++ "\"\nstyle = \"Regular\"\nversion = \"1.0\"\n"

/-- The plan for a family of the given name. -/
def samplePlanOf (family : String) : Plan where
  naming := { family, style := "Regular", version := "1.0" }

/-- With a slash in the name of its family, a font is written outside the output directory, or
cannot be written as its directory has not been created. -/
theorem font_outside_output_directory :
    (Plan.ofText "plan.toml" (samplePlanText "/loose") = .ok (samplePlanOf "/loose") ∧
      (samplePlanOf "/loose").outputDir = "dist" ∧
      (samplePlanOf "/loose").artifactPath = "/loose.ttf" ∧
      Path.components (samplePlanOf "/loose").artifactPath ≠
        Path.components (samplePlanOf "/loose").outputDir ++ ["/loose.ttf".toList] ∧
      ((sampleProject (samplePlanOf "/loose")).save Site.host .standard
        sampleSite).2.tree.isFile "/loose.ttf" = true) ∧
    Plan.ofText "plan.toml" (samplePlanText "a/b") = .ok (samplePlanOf "a/b") ∧
      (samplePlanOf "a/b").outputDir = "dist" ∧ (samplePlanOf "a/b").artifactPath = "dist/a/b.ttf" ∧
      ((sampleProject (samplePlanOf "a/b")).save Site.host .standard sampleSite).1.1.outcome =
        .error (.file "dist/a/b.ttf" .notFound) := by
  refine ⟨⟨?_, rfl, by decide, by decide, by decide +kernel⟩, ?_, rfl, by decide, ?_⟩
  · cbv
  · cbv
  · with_unfolding_all rfl

end Gridface
