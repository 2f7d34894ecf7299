import Gridface.Main
import Gridface.Tool.Box
import Gridface.Proofs.Cartouche.Names
import Gridface.Proofs.Cartouche.Rules
import Gridface.Proofs.Cartouche.Chaining
import Gridface.Proofs.Numbering.Free
import Gridface.Proofs.Numbering.Pool
import Gridface.Proofs.Numbering.Refusal
import Gridface.Proofs.Numbering.Assign
import Gridface.Proofs.Numbering.Outcome
import Gridface.Proofs.Numbering.Requests
import Gridface.Proofs.Report
import Gridface.Proofs.Roster.References
import Gridface.Proofs.Roster.Compile
import Gridface.Proofs.Roster.Policies
import Gridface.Proofs.Sorting
import Gridface.Proofs.Roster.Consistency
import Gridface.Proofs.Substitution.Builders
import Gridface.Proofs.Substitution.Alternates
import Gridface.Proofs.Substitution.Ligatures
import Gridface.Proofs.Roster.Ligatures
import Gridface.Proofs.Cartouche.Synthesis
import Gridface.Proofs.Roster.Alternates
import Gridface.Proofs.Roster.Switching
import Gridface.Proofs.Cartouche.Changes
import Gridface.Proofs.Repertoire.Merging
import Gridface.Proofs.Project.Drawing
import Gridface.Proofs.Repertoire.Filing
import Gridface.Proofs.Repertoire.Edits
import Gridface.Proofs.Bitmap
import Gridface.Proofs.Bitmap.Rows
import Gridface.Proofs.Outline.Pixels
import Gridface.Proofs.Font.Slots
import Gridface.Proofs.Font.Storage
import Gridface.Proofs.Font.Pixels
import Gridface.Proofs.Cartouche.Repetition
import Gridface.Proofs.Numbering.Extension
import Gridface.Proofs.FileTree
import Gridface.Proofs.Project.Saving
import Gridface.Proofs.Cartouche.Cells
import Gridface.Proofs.Checked
import Gridface.Proofs.Cartouche.Framing
import Gridface.Proofs.Roster.Ids
import Gridface.Proofs.Roster.Reordering
import Gridface.Proofs.Font.Glyphs
import Gridface.Proofs.Font.Extents
import Gridface.Proofs.Font.Advances
import Gridface.Proofs.Font.Mappings
import Gridface.Proofs.Outline.Contours
import Gridface.Proofs.Font.Characters
import Gridface.Proofs.Font.Outcome
import Gridface.Proofs.Substitution.Lookups
import Gridface.Proofs.Substitution.Wiring
import Gridface.Proofs.Substitution.Conflicts
import Gridface.Proofs.Cartouche.Sets
import Gridface.Proofs.Sheet.Positions
import Gridface.Proofs.FileTree.Directories
import Gridface.Proofs.Project.Placing
