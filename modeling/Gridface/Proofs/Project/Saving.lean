import Gridface.Proofs.FileTree
import Gridface.Proofs.Site

/-!
# Saving and building a font

A font is compiled before anything is done to the files, and the plan's command is run after all has
been written. So a build that fails for what its inputs say leaves no trace. A project gives the
same font whenever it is asked, whatever has been done with it.
-/

namespace Gridface

namespace Project

variable {library : FontLibrary} {p p₀ : Project} {s : Site}

/-! ## The font of a project -/

/-- `p` is `p₀` after some calls: it has the same plan and inputs, and the font that it may remember
is the one that they give. -/
structure Stems (library : FontLibrary) (p₀ p : Project) : Prop where
  plan_eq : p.plan = p₀.plan
  annotations_eq : p.annotations = p₀.annotations
  sheets_eq : p.sheets = p₀.sheets
  compiled : ∀ c, p.compiled = some c → (p₀.compileAfresh library).outcome = .ok c

theorem stems_fresh (library : FontLibrary) (plan : Plan) (annotations : Annotations)
    (sheets : List (Sheet × MergeOptions)) :
    Stems library { plan, annotations, sheets } { plan, annotations, sheets } :=
  ⟨rfl, rfl, rfl, fun _ h => nomatch h⟩

theorem Stems.compileAfresh_eq (h : Stems library p₀ p) :
    p.compileAfresh library = p₀.compileAfresh library := by
  simp only [compileAfresh, roster, repertoire, drawn, h.plan_eq, h.annotations_eq, h.sheets_eq]

/-- Compiling comes to the same every time. -/
theorem Stems.outcome_compile (h : Stems library p₀ p) :
    (p.compile library).1.outcome = (p₀.compileAfresh library).outcome := by
  unfold compile
  cases hc : p.compiled with
  | none => rw [← h.compileAfresh_eq]
  | some c => exact (h.compiled c hc).symm

theorem Stems.compile (h : Stems library p₀ p) : Stems library p₀ (p.compile library).2 := by
  unfold Project.compile
  cases hc : p.compiled with
  | some c => exact h
  | none =>
      refine ⟨h.plan_eq, h.annotations_eq, h.sheets_eq, fun c hcompiled => ?_⟩
      rw [← h.compileAfresh_eq]
      cases hfresh : (p.compileAfresh library).outcome with
      | error e => simp [hfresh, Except.toOption] at hcompiled
      | ok c' =>
          simp only [hfresh, Except.toOption, Option.some_inj] at hcompiled
          rw [hcompiled]

/-! ## Saving -/

/-- The ways in which saving the font of `p` at a site can end, with the outcome and the site after
it. -/
inductive SaveEnds (library : FontLibrary) (p : Project) (s : Site) :
    Except Fault String → Site → Prop
  | unmade {e : Fault} (hfont : (p.compile library).1.outcome = .error e) :
      SaveEnds library p s (.error e) s
  | noDirectory {c : Compiled} {problem : FileProblem} {tree : FileTree}
      (hfont : (p.compile library).1.outcome = .ok c)
      (hdirs : s.tree.createDirs p.plan.outputDir = (.error problem, tree)) :
      SaveEnds library p s (.error (.file p.plan.outputDir problem)) { s with tree }
  | unwritten {c : Compiled} {problem : FileProblem} {tree : FileTree}
      (hfont : (p.compile library).1.outcome = .ok c)
      (hdirs : s.tree.createDirs p.plan.outputDir = (.ok (), tree))
      (hwrite : tree.write p.plan.artifactPath (.ofFont c.font) = .error problem) :
      SaveEnds library p s (.error (.file p.plan.artifactPath problem)) { s with tree }
  | written {c : Compiled} {tree tree' : FileTree} (hfont : (p.compile library).1.outcome = .ok c)
      (hdirs : s.tree.createDirs p.plan.outputDir = (.ok (), tree))
      (hwrite : tree.write p.plan.artifactPath (.ofFont c.font) = .ok tree') :
      SaveEnds library p s (.ok p.plan.artifactPath) { s with tree := tree' }

theorem compile_plan (library : FontLibrary) (p : Project) :
    (p.compile library).2.plan = p.plan := by
  unfold compile
  split
  · rfl
  · rfl

theorem writeFont_ends {q : Project} (hplan : q.plan = p.plan) {c : Compiled}
    (hfont : (p.compile library).1.outcome = .ok c) (s : Site) :
    SaveEnds library p s (q.writeFont Site.host c.font s).1 (q.writeFont Site.host c.font s).2 := by
  unfold writeFont
  simp only [Site.bind_apply, Site.host_createDirs, hplan]
  cases hdirs : s.tree.createDirs p.plan.outputDir with
  | mk result tree =>
      cases result with
      | error problem => exact .noDirectory hfont hdirs
      | ok _ =>
          simp only [Site.bind_apply, Site.host_writeFont]
          cases hwrite : tree.write p.plan.artifactPath (.ofFont c.font) with
          | error problem => exact .unwritten hfont hdirs hwrite
          | ok tree' => exact .written hfont hdirs hwrite

theorem save_ends (library : FontLibrary) (p : Project) (s : Site) :
    (p.save Site.host library s).1.2 = (p.compile library).2 ∧
      SaveEnds library p s (p.save Site.host library s).1.1.outcome
        (p.save Site.host library s).2 := by
  have hplan := compile_plan library p
  unfold save
  generalize hcompile : p.compile library = result at *
  obtain ⟨⟨notices, outcome⟩, q⟩ := result
  cases outcome with
  | error e => exact ⟨rfl, .unmade (congrArg (fun r => r.1.outcome) hcompile)⟩
  | ok c =>
      have hends := writeFont_ends hplan (congrArg (fun r => r.1.outcome) hcompile) s
      simp only [Site.bind_apply]
      exact ⟨rfl, hends⟩

/-! ## Building -/

theorem postprocess_site (p : Project) (path : String) (s : Site) :
    (p.postprocess Site.host path s).2 = s.processed p.plan.command path := by
  unfold postprocess
  cases p.plan.command with
  | none => rfl
  | some command =>
      simp only [Site.bind_apply, Site.host_run, Site.processed]
      cases ((s.run command path s.tree).1.review command path).2 with
      | ok _ => rfl
      | error e => rfl

/-- Building comes to what saving comes to, and the command is run if all has gone well. -/
theorem build_ends (library : FontLibrary) (p : Project) (postprocess : Bool) (s : Site) :
    (p.build Site.host postprocess library s).1.2 = (p.compile library).2 ∧
      (p.build Site.host postprocess library s).1.1.outcome =
        (p.save Site.host library s).1.1.outcome ∧
      (p.build Site.host postprocess library s).2 =
        match (p.save Site.host library s).1.1.outcome with
        | .error _ => (p.save Site.host library s).2
        | .ok path =>
          if postprocess then (p.save Site.host library s).2.processed p.plan.command path
          else (p.save Site.host library s).2 := by
  have hplan := compile_plan library p
  obtain ⟨hproject, -⟩ := save_ends library p s
  rw [← hproject] at hplan ⊢
  unfold build
  simp only [Site.bind_apply]
  generalize p.save Site.host library s = result at *
  obtain ⟨⟨⟨notices, outcome⟩, q⟩, s'⟩ := result
  cases outcome with
  | error e => exact ⟨rfl, rfl, rfl⟩
  | ok path =>
      cases postprocess with
      | false => exact ⟨rfl, rfl, rfl⟩
      | true =>
          have hsite := postprocess_site q path s'
          rw [hplan] at hsite
          exact ⟨rfl, rfl, hsite⟩

/-! ## Over a file tree alone -/

theorem tracks_writeFont (p : Project) (font : Font) :
    Site.Tracks (p.writeFont Site.host font) fun host => p.writeFont host font := by
  unfold writeFont
  refine .bind (.createDirs _) fun result => ?_
  cases result with
  | error problem => exact .pure _
  | ok _ => exact .bind (.writeFont _ _) fun _ => .pure _

theorem tracks_save (library : FontLibrary) (p : Project) :
    Site.Tracks (p.save Site.host library) fun host => p.save host library := by
  unfold save
  generalize p.compile library = result
  obtain ⟨⟨notices, outcome⟩, q⟩ := result
  cases outcome with
  | error e => exact .pure _
  | ok c => exact .bind (tracks_writeFont q c.font) fun _ => .pure _

theorem tracks_postprocess (p : Project) (path : String) :
    Site.Tracks (p.postprocess Site.host path) fun host => p.postprocess host path := by
  unfold postprocess
  cases p.plan.command with
  | none => exact .pure _
  | some command =>
      refine .bind (.run command path) fun completion => ?_
      dsimp only
      cases (completion.review command path).2 with
      | ok _ => exact .pure _
      | error e => exact .pure _

theorem tracks_build (library : FontLibrary) (p : Project) (postprocess : Bool) :
    Site.Tracks (p.build Site.host postprocess library)
      fun host => p.build host postprocess library := by
  unfold build
  refine .bind (tracks_save library p) fun result => ?_
  obtain ⟨⟨notices, outcome⟩, q⟩ := result
  cases outcome with
  | error e => exact .pure _
  | ok path =>
      cases postprocess with
      | false => exact .bind (.pure _) fun _ => .pure _
      | true => exact .bind (tracks_postprocess q path) fun _ => .pure _

/-! ## One call after another -/

/-- What a project can be asked for. -/
inductive Call
  | compile
  | save
  | build (postprocess : Bool)
  deriving DecidableEq, Repr

/-- The project after a call at a site. -/
def afterCall (library : FontLibrary) (p : Project) (call : Call) (s : Site) : Project :=
  match call with
  | .compile => (p.compile library).2
  | .save => (p.save Site.host library s).1.2
  | .build postprocess => (p.build Site.host postprocess library s).1.2

/-- The project after some calls, each at a site of its own. -/
def afterCalls (library : FontLibrary) (p : Project) (calls : List (Call × Site)) : Project :=
  calls.foldl (fun p call => p.afterCall library call.1 call.2) p

theorem afterCall_eq (library : FontLibrary) (p : Project) (call : Call) (s : Site) :
    p.afterCall library call s = (p.compile library).2 := by
  cases call with
  | compile => rfl
  | save => exact (save_ends library p s).1
  | build postprocess => exact (build_ends library p postprocess s).1

theorem Stems.afterCalls (h : Stems library p₀ p) (calls : List (Call × Site)) :
    Stems library p₀ (p.afterCalls library calls) := by
  induction calls generalizing p with
  | nil => exact h
  | cons call calls ih =>
      show Stems library p₀ ((p.afterCall library call.1 call.2).afterCalls library calls)
      rw [afterCall_eq]
      exact ih h.compile

theorem SaveEnds.ran_eq {outcome : Except Fault String} {s' : Site}
    (h : SaveEnds library p s outcome s') : s'.ran = s.ran := by
  cases h <;> rfl

theorem SaveEnds.eq_of_error {e : Fault} {s' : Site} (h : SaveEnds library p s (.error e) s')
    (hfile : ∀ path problem, e ≠ .file path problem) : s' = s := by
  cases h with
  | unmade _ => rfl
  | noDirectory _ _ => exact absurd rfl (hfile _ _)
  | unwritten _ _ _ => exact absurd rfl (hfile _ _)

theorem SaveEnds.delivered {path : String} {s' : Site} (h : SaveEnds library p s (.ok path) s') :
    path = p.plan.artifactPath ∧ ∃ c, (p.compile library).1.outcome = .ok c ∧
      FileTree.Delivered s.tree path (.ofFont c.font) s'.tree := by
  cases h with
  | @written c tree tree' hfont hdirs hwrite =>
      have hfurnished := s.tree.furnished_createDirs p.plan.outputDir
      rw [hdirs] at hfurnished
      exact ⟨rfl, c, hfont, hfurnished.delivered hwrite⟩

end Project

/-- Whatever the library and whatever calls have come before, a project compiles to what its plan
and inputs give. Saving and building do nothing at all if they fail for another reason than a file;
saving runs no command, and delivers the compiled font if it succeeds; and building comes to what
saving comes to, with the command run over the font at the end. -/
theorem save_and_build (plan : Plan) (annotations : Annotations)
    (sheets : List (Sheet × MergeOptions)) (library : FontLibrary)
    (calls : List (Project.Call × Site)) (s : Site) :
    let p₀ : Project := { plan, annotations, sheets }
    let p := p₀.afterCalls library calls
    let saving := p.save Site.host library s
    let outcome := saving.1.1.outcome
    (p.compile library).1.outcome = (p₀.compileAfresh library).outcome ∧
      p.save (FileTree.host s.run) library s.tree = (saving.1, saving.2.tree) ∧
      saving.2.ran = s.ran ∧
      (∀ e, outcome = .error e → (∀ path problem, e ≠ .file path problem) → saving.2 = s) ∧
      (∀ path, outcome = .ok path → path = plan.artifactPath ∧
        ∃ c, (p₀.compileAfresh library).outcome = .ok c ∧
          FileTree.Delivered s.tree path (.ofFont c.font) saving.2.tree) ∧
      ∀ postprocess,
        let building := p.build Site.host postprocess library s
        p.build (FileTree.host s.run) postprocess library s.tree = (building.1, building.2.tree) ∧
          building.1.1.outcome = outcome ∧
          building.2 =
            match outcome with
            | .error _ => saving.2
            | .ok path =>
              if postprocess then saving.2.processed plan.command path else saving.2 := by
  intro p₀ p saving outcome
  have hp : Project.Stems library p₀ p :=
    (Project.stems_fresh library plan annotations sheets).afterCalls calls
  obtain ⟨-, hends⟩ : saving.1.2 = (p.compile library).2 ∧
      Project.SaveEnds library p s outcome saving.2 := p.save_ends library s
  refine ⟨hp.outcome_compile, (p.tracks_save library s).1, hends.ran_eq, fun e he => ?_,
    fun path hpath => ?_, fun postprocess => ?_⟩
  · rw [he] at hends
    exact hends.eq_of_error
  · rw [hpath] at hends
    obtain ⟨rfl, c, hc, hdelivered⟩ := hends.delivered
    rw [hp.plan_eq] at hdelivered ⊢
    exact ⟨rfl, c, hp.outcome_compile ▸ hc, hdelivered⟩
  · obtain ⟨-, houtcome, hsite⟩ := p.build_ends library postprocess s
    rw [hp.plan_eq] at hsite
    exact ⟨(p.tracks_build library postprocess s).1, houtcome, hsite⟩

/-! ## Projects of one glyph and of none -/

/-- An annotation with a number that is no character. -/
def sampleSurrogate : Annotations where
  entries := [("a", { codePoint := some 0xD800 })]
  distinct := by decide

/-- A plan with a command. -/
def samplePlan : Plan where
  naming := { family := "Tiny", style := "Regular", version := "first" }
  command := some { program := "sign" }

/-- A site without files, where no command can be started. -/
def sampleSite : Site where
  tree := { nodes := [], workingDir := FileTree.root }
  run _ _ tree := (.notStarted .notFound, tree)

theorem save_and_build_sampleProjects :
    let refused := Project.afterCalls .standard
      { plan := samplePlan, annotations := sampleSurrogate, sheets := [] } [(.save, sampleSite)]
    let sound := Project.afterCalls .standard
      { plan := samplePlan, annotations := .empty, sheets := [] } [(.build true, sampleSite)]
    (refused.save Site.host .standard sampleSite).1.1.outcome =
        .error (.invalidCodePoint "a" 0xD800) ∧
      (refused.save Site.host .standard sampleSite).2 = sampleSite ∧
      (sound.save Site.host .standard sampleSite).1.1.outcome = .ok "dist/Tiny.ttf" ∧
      ∃ c, sound.compile.1.outcome = .ok c ∧
        FileTree.Delivered sampleSite.tree "dist/Tiny.ttf" (.ofFont c.font)
          (sound.save Site.host .standard sampleSite).2.tree := by
  intro refused sound
  obtain ⟨-, -, -, hnone, -, -⟩ :=
    save_and_build samplePlan sampleSurrogate [] .standard [(.save, sampleSite)] sampleSite
  obtain ⟨hcompile, -, -, -, hsaved, -⟩ :=
    save_and_build samplePlan .empty [] .standard [(.build true, sampleSite)] sampleSite
  have hrefused : (refused.save Site.host .standard sampleSite).1.1.outcome =
      .error (.invalidCodePoint "a" 0xD800) := rfl
  have hsound : (sound.save Site.host .standard sampleSite).1.1.outcome = .ok "dist/Tiny.ttf" := by
    have hpath : (sound.save Site.host .standard sampleSite).1.1.outcome.toOption =
        some "dist/Tiny.ttf" := by
      decide +kernel
    generalize (sound.save Site.host .standard sampleSite).1.1.outcome = outcome at hpath
    cases outcome with
    | error e => cases hpath
    | ok path => exact congrArg Except.ok (Option.some.inj hpath)
  obtain ⟨-, c, hc, hdelivered⟩ := hsaved _ hsound
  exact ⟨hrefused, hnone _ hrefused nofun, hsound, c, hcompile.trans hc, hdelivered⟩

end Gridface
