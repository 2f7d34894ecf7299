import Gridface.FileTree.Host

/-!
# Sites

The surroundings of a build, with a record of the commands that have been run. Nothing but the
record sets them apart from the surroundings that a file tree gives.
-/

namespace Gridface

/-- A file tree, what commands do to it, and which commands have been run, each over its file. -/
structure Site where
  tree : FileTree
  run : Command → String → FileTree → Completion × FileTree
  ran : List (Command × String) := []

namespace Site

/-- A step over the file tree of a site. -/
def onTree {α : Type} (step : Host (StateM FileTree) → StateM FileTree α) : StateM Site α :=
  fun s =>
    let (a, tree) := step (FileTree.host s.run) s.tree
    (a, { s with tree })

/-- The surroundings of a build at a site: those of its file tree, with a record of commands. -/
def host : Host (StateM Site) where
  readText path := onTree fun h => h.readText path
  createDirs path := onTree fun h => h.createDirs path
  writeFont path font := onTree fun h => h.writeFont path font
  run command artifact := do
    modify fun s => { s with ran := s.ran ++ [(command, artifact)] }
    onTree fun h => h.run command artifact

theorem bind_apply {α β : Type} (step : StateM Site α) (rest : α → StateM Site β) (s : Site) :
    (step >>= rest) s = rest (step s).1 (step s).2 := rfl

theorem host_createDirs (path : String) (s : Site) :
    host.createDirs path s =
      ((s.tree.createDirs path).1, { s with tree := (s.tree.createDirs path).2 }) := rfl

theorem host_writeFont (path : String) (font : Font) (s : Site) :
    host.writeFont path font s =
      match s.tree.write path (.ofFont font) with
      | .ok tree => (.ok (), { s with tree })
      | .error problem => (.error problem, s) := by
  show onTree (fun h => h.writeFont path font) s = _
  unfold onTree FileTree.host FileTree.change
  dsimp only
  cases s.tree.write path (.ofFont font) with
  | ok tree => rfl
  | error problem => rfl

/-- The site after a command has been run over a file. -/
def after (s : Site) (command : Command) (artifact : String) : Site :=
  { s with
    tree := (s.run command artifact s.tree).2
    ran := s.ran ++ [(command, artifact)] }

/-- The site after the command that there may be. -/
def processed (s : Site) (command : Option Command) (artifact : String) : Site :=
  match command with
  | none => s
  | some command => s.after command artifact

theorem host_run (command : Command) (artifact : String) (s : Site) :
    host.run command artifact s =
      ((s.run command artifact s.tree).1, s.after command artifact) := rfl

/-! ## Without the record -/

/-- `step` does to the tree of a site what `plain` does to the tree alone. -/
def Tracks {α : Type} (step : StateM Site α)
    (plain : Host (StateM FileTree) → StateM FileTree α) : Prop :=
  ∀ s, plain (FileTree.host s.run) s.tree = ((step s).1, (step s).2.tree) ∧ (step s).2.run = s.run

namespace Tracks

variable {α β : Type}

theorem pure (a : α) : Tracks (Pure.pure a) fun _ => Pure.pure a := fun _ => ⟨rfl, rfl⟩

theorem bind {step : StateM Site α} {plain : Host (StateM FileTree) → StateM FileTree α}
    {rest : α → StateM Site β} {plainRest : α → Host (StateM FileTree) → StateM FileTree β}
    (h : Tracks step plain) (hrest : ∀ a, Tracks (rest a) (plainRest a)) :
    Tracks (step >>= rest) fun host => plain host >>= fun a => plainRest a host := by
  intro s
  obtain ⟨hplain, hrun⟩ := h s
  obtain ⟨hplain', hrun'⟩ := hrest (step s).1 (step s).2
  rw [hrun] at hplain' hrun'
  refine ⟨?_, hrun'⟩
  show plainRest (plain (FileTree.host s.run) s.tree).1 (FileTree.host s.run)
    (plain (FileTree.host s.run) s.tree).2 = _
  rw [hplain]
  exact hplain'

theorem createDirs (path : String) :
    Tracks (Site.host.createDirs path) fun host => host.createDirs path := fun _ => ⟨rfl, rfl⟩

theorem writeFont (path : String) (font : Font) :
    Tracks (Site.host.writeFont path font) fun host => host.writeFont path font :=
  fun _ => ⟨rfl, rfl⟩

theorem run (command : Command) (artifact : String) :
    Tracks (Site.host.run command artifact) fun host => host.run command artifact :=
  fun _ => ⟨rfl, rfl⟩

end Tracks

end Site

end Gridface
