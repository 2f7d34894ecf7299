import Gridface.Proofs.Cartouche.Cells
import Gridface.Proofs.Cartouche.Synthesis
import Gridface.Proofs.Checked

/-!
# Drawing in 32 bits

The frame is drawn row by row, with numbers of 32 bits for sizes and offsets, and with room taken
for each row. Whether the bitmap fits is found out first: if it does, no number leaves its range,
and if it does not, no room is taken.
-/

namespace Gridface

/-! ## Drawing -/

/-- A step of drawing, with the sizes of the rooms taken. -/
abbrev Framing := ExceptT Fault (StateM (List Nat))

namespace Framing

/-- Takes room for some cells. -/
def takeRoom (cells : Nat) : Framing Unit := modify (· ++ [cells])

/-- A number that is in its range. -/
def inRange (v : Option UInt32) : Framing UInt32 :=
  match v with
  | some v => pure v
  | none => throw .positionOverflow

/-- The outcome of a step, and the rooms that have been taken by then. -/
def result {α : Type} (step : Framing α) (rooms : List Nat) : Except Fault α × List Nat :=
  step.run rooms

variable {α β : Type} {step : Framing α} {rest : α → Framing β} {a : α} {rooms rooms' : List Nat}

theorem result_bind (h : step.result rooms = (.ok a, rooms')) :
    (step >>= rest).result rooms = (rest a).result rooms' := by
  show ExceptT.bindCont rest (step.result rooms).1 (step.result rooms).2 = _
  rw [h]
  rfl

theorem result_inRange (v : UInt32) (rooms : List Nat) :
    (inRange (some v)).result rooms = (.ok v, rooms) := rfl

theorem result_takeRoom (cells : Nat) (rooms : List Nat) :
    (takeRoom cells).result rooms = (.ok (), rooms ++ [cells]) := rfl

end Framing

open Framing

/-- A bitmap with sizes and offsets of 32 bits. -/
structure Bitmap32 where
  width : UInt32
  height : UInt32
  x : Int32
  y : Int32
  pixels : List Bool
  covers : pixels.length = width.toNat * height.toNat
  deriving DecidableEq

namespace Bitmap32

/-- The bitmap with numbers of any size. -/
def toBitmap (b : Bitmap32) : Bitmap where
  width := b.width.toNat
  height := b.height.toNat
  x := b.x.toInt
  y := b.y.toInt
  pixels := b.pixels
  covers := b.covers

/-- Draws a row of the bitmap as a row of the frame. -/
def drawRow (b : Bitmap32) (role : Option Role) (source : List Bool) : Framing (List Bool) := do
  let blank ← inRange (Checked.sub 8 b.width)
  takeRoom blank.toNat
  let row := List.replicate blank.toNat false
  let column := b.x.toInt64.toUInt64.toNat
  if row.length < column then throw .positionOverflow
  let row := row.take column ++ source ++ row.drop column
  takeRoom row.length
  return Role.fill role row

/-- Draws the bitmap in the frame; `name` is the glyph to blame if it does not fit. -/
def drawFrame (b : Bitmap32) (name : String) (role : Option Role) : Framing (List Bool) := do
  if !Checked.fits b.width b.x 8 || !Checked.fits b.height b.y 7 then
    throw (.frameOverflow name b.width.toNat b.height.toNat b.x.toInt b.y.toInt)
  takeRoom 56
  let above ← inRange (Checked.mul b.y.toUInt32 8)
  let frame ← (b.toBitmap.rows.take b.height.toNat).foldlM
    (fun frame source => return frame ++ (← b.drawRow role source))
    (List.replicate above.toNat false)
  return frame.take 56 ++ List.replicate (56 - frame.length) false

variable {b : Bitmap32} {role : Option Role} {source : List Bool} {rooms : List Nat}

theorem fits_iff : b.toBitmap.Fits ↔
    Checked.fits b.width b.x 8 = true ∧ Checked.fits b.height b.y 7 = true := by
  rw [Checked.fits_iff, Checked.fits_iff, and_assoc]
  rfl

theorem column_eq (h : 0 ≤ b.x.toInt) : b.x.toInt64.toUInt64.toNat = b.toBitmap.x.toNat := by
  have hnonneg : 0 ≤ b.x.toInt64 := by
    rw [Int64.le_iff_toInt_le, Int32.toInt_toInt64]
    exact h
  rw [Int64.toNat_toUInt64_of_le hnonneg, Int32.toNatClampNeg_toInt64]
  rfl

/-- The rooms that a row of the frame takes: first without the pixels, then with them. -/
def rowRooms (b : Bitmap32) : List Nat := [frameWidth - b.toBitmap.width, frameWidth]

/-- A row of a bitmap that fits is drawn without fail. -/
theorem result_drawRow (h : b.toBitmap.Fits) (hsource : source.length = b.toBitmap.width) :
    (b.drawRow role source).result rooms =
      (.ok (Role.fill role (b.toBitmap.framedRow source)), rooms ++ b.rowRooms) := by
  have hlength := Bitmap.length_framedRow h hsource
  obtain ⟨hx, hw, -, -⟩ := h
  have hwidth : b.toBitmap.width ≤ frameWidth := by omega
  obtain ⟨blank, hblank, hvalue⟩ : ∃ blank, Checked.sub 8 b.width = some blank ∧
    blank.toNat = frameWidth - b.toBitmap.width := Checked.sub_eq_some hwidth
  have hcolumn : b.toBitmap.x.toNat ≤ blank.toNat := by omega
  -- the pixels split the blank cells into those before and those after them.
  have hrow : (List.replicate blank.toNat false).take b.toBitmap.x.toNat ++ source ++
      (List.replicate blank.toNat false).drop b.toBitmap.x.toNat = b.toBitmap.framedRow source := by
    rw [List.take_replicate, List.drop_replicate, Nat.min_eq_left hcolumn, hvalue]
    rfl
  unfold drawRow
  rw [hblank, result_bind (result_inRange _ _), result_bind (result_takeRoom _ _), column_eq hx]
  dsimp only
  rw [List.length_replicate, if_neg (Nat.not_lt.mpr hcolumn), hrow, hlength, hvalue]
  show (_, rooms ++ [_] ++ [_]) = _
  rw [List.append_assoc]
  rfl

/-- Drawing rows one after another adds them to the frame. -/
theorem result_drawRows (h : b.toBitmap.Fits) {sources : List (List Bool)}
    (hsources : ∀ source ∈ sources, source.length = b.toBitmap.width) (frame : List Bool) :
    (sources.foldlM (fun frame source => return frame ++ (← b.drawRow role source))
        frame : Framing (List Bool)).result rooms =
      (.ok (frame ++ (sources.map fun source =>
          Role.fill role (b.toBitmap.framedRow source)).flatten),
        rooms ++ sources.flatMap fun _ => b.rowRooms) := by
  induction sources generalizing frame rooms with
  | nil =>
      simp only [List.map_nil, List.flatten_nil, List.append_nil, List.flatMap_nil]
      rfl
  | cons source sources ih =>
      have hstep : (return frame ++ (← b.drawRow role source) : Framing (List Bool)).result rooms =
          (.ok (frame ++ Role.fill role (b.toBitmap.framedRow source)), rooms ++ b.rowRooms) := by
        rw [result_bind (result_drawRow h (hsources source List.mem_cons_self))]
        rfl
      rw [List.foldlM_cons, result_bind hstep,
        ih fun s hs => hsources s (List.mem_cons_of_mem _ hs)]
      simp only [List.map_cons, List.flatten_cons, List.flatMap_cons, List.append_assoc]

/-- The rooms that a bitmap takes: that of the frame, and those of its rows. -/
def frameRooms (b : Bitmap32) : List Nat :=
  (frameWidth * frameHeight) :: b.toBitmap.rows.flatMap fun _ => b.rowRooms

theorem le_of_mem_frameRooms {room : Nat} (h : room ∈ b.frameRooms) :
    room ≤ frameWidth * frameHeight := by
  have hrow : frameWidth ≤ frameWidth * frameHeight := by decide
  rcases List.mem_cons.mp h with rfl | h
  · exact Nat.le_refl _
  · obtain ⟨-, -, h⟩ := List.mem_flatMap.mp h
    rcases List.mem_pair.mp h with rfl | rfl
    · exact (Nat.sub_le ..).trans hrow
    · exact hrow

/-- The frame is what has been drawn of it, filled up with blank cells. -/
theorem flatten_framedRows (h : b.toBitmap.Fits) {frame : List Bool}
    (hframe : frame = List.replicate (b.toBitmap.y.toNat * frameWidth) false ++
      (b.toBitmap.rows.map fun source =>
        Role.fill role (b.toBitmap.framedRow source)).flatten) :
    frame.take (frameWidth * frameHeight) ++
        List.replicate (frameWidth * frameHeight - frame.length) false =
      (b.toBitmap.framedRows role).flatten := by
  have htotal := Bitmap.length_flatten_framedRows h role
  simp only [Bitmap.framedRows, Bitmap.blankRow, List.flatten_append,
    List.flatten_replicate_replicate, ← hframe] at htotal ⊢
  rw [List.length_append, List.length_replicate] at htotal
  rw [List.take_of_length_le (by omega), ← htotal, Nat.add_sub_cancel_left]

/-- A bitmap that fits is drawn without fail, and comes to be the frame around it. -/
theorem result_drawFrame (h : b.toBitmap.Fits) (name : String) (role : Option Role) :
    (b.drawFrame name role).result [] =
      (.ok (b.toBitmap.framedRows role).flatten, b.frameRooms) := by
  have hguard : (!Checked.fits b.width b.x 8 || !Checked.fits b.height b.y 7) = false := by
    obtain ⟨hwide, hhigh⟩ := fits_iff.mp h
    rw [hwide, hhigh]
    rfl
  obtain ⟨above, habove, hvalue⟩ : ∃ above, Checked.mul b.y.toUInt32 8 = some above ∧
      above.toNat = b.toBitmap.y.toNat * frameWidth := by
    obtain ⟨-, -, hy, hh⟩ := h
    have hoffset : b.y.toUInt32.toNat = b.toBitmap.y.toNat := Checked.toNat_toUInt32 hy
    rw [← hoffset]
    refine Checked.mul_eq_some ?_
    show b.y.toUInt32.toNat * 8 < 4294967296
    have hheight : frameHeight = 7 := rfl
    omega
  have hrows : b.toBitmap.rows.take b.height.toNat = b.toBitmap.rows := by
    refine List.take_of_length_le ?_
    rw [Bitmap.length_rows]
    split
    · exact Nat.zero_le _
    · exact Nat.le_refl _
  unfold drawFrame
  rw [if_neg (ne_true_of_eq_false hguard), result_bind (result_takeRoom _ _), habove,
    result_bind (result_inRange _ _), hrows, hvalue,
    result_bind (result_drawRows h (fun _ => Bitmap.length_of_mem_rows) _)]
  show (Except.ok _, _) = _
  rw [← flatten_framedRows h rfl]
  rfl

/-- For a bitmap that does not fit nothing is drawn. -/
theorem result_drawFrame_of_not_fits (h : ¬b.toBitmap.Fits) (name : String) (role : Option Role) :
    (b.drawFrame name role).result [] =
      (.error (.frameOverflow name b.width.toNat b.height.toNat b.x.toInt b.y.toInt), []) := by
  have hguard : (!Checked.fits b.width b.x 8 || !Checked.fits b.height b.y 7) = true := by
    rw [fits_iff] at h
    simpa only [Bool.or_eq_true, Bool.not_eq_true', ← Bool.not_eq_true, ← not_and_or] using h
  unfold drawFrame
  rw [if_pos hguard]
  rfl

end Bitmap32

/-! ## Cells and forms -/

theorem CartoucheStyle.form_of_fits {g : Glyph} {b : Bitmap} (s : CartoucheStyle)
    (hbitmap : g.bitmap = some b) (h : b.Fits) :
    ∃ form, s.form g = .ok form ∧ form.bitmap =
      some (if g.role.isNone then (b.framed h g.role).inverted else b.framed h g.role) :=
  ⟨_, form_eq_ok.mpr ⟨b, _, hbitmap, b.frame_of_fits h g.name g.role, rfl⟩, rfl⟩

theorem CartoucheStyle.form_of_not_fits {g : Glyph} {b : Bitmap} (s : CartoucheStyle)
    (hbitmap : g.bitmap = some b) (h : ¬b.Fits) :
    s.form g = .error (.frameOverflow g.name b.width b.height b.x b.y) := by
  unfold form
  rw [hbitmap]
  dsimp only
  rw [b.frame_of_not_fits h]
  rfl

/-- Drawing comes to the frame of the bitmap. It succeeds just if the bitmap lies in the frame as a
whole; otherwise no room is taken. The cells of the frame are those that the bitmap shows in its
role, and the form of a glyph with the bitmap shows just these, or just the others if the glyph has
no role. -/
theorem drawn_cells (name : String) (b : Bitmap32) (role : Option Role) :
    let drawing := (b.drawFrame name role).result []
    let inFrame := 0 ≤ b.x.toInt ∧ b.x.toInt + b.width.toNat ≤ 8 ∧
      0 ≤ b.y.toInt ∧ b.y.toInt + b.height.toNat ≤ 7
    let overflow := Fault.frameOverflow name b.width.toNat b.height.toNat b.x.toInt b.y.toInt
    drawing.1 = (b.toBitmap.frame name role).map Bitmap.pixels ∧
    (¬inFrame → drawing = (.error overflow, []) ∧
      ∀ (s : CartoucheStyle) (g : Glyph), g.name = name → g.bitmap = some b.toBitmap →
        s.form g = .error overflow) ∧
    (inFrame → ∃ cells rooms, drawing = (.ok cells, rooms) ∧ cells.length = 56 ∧
      (∀ room ∈ rooms, room ≤ 56) ∧
      (∀ r < 7, ∀ c < 8, cells[r * 8 + c]? = some true ↔ b.toBitmap.Shows role c r) ∧
      (b.width = 0 → cells = List.replicate 56 false) ∧
      ∀ (s : CartoucheStyle) (g : Glyph), g.name = name → g.bitmap = some b.toBitmap →
        g.role = role → ∃ form framed, s.form g = .ok form ∧ form.bitmap = some framed ∧
          framed.width = 8 ∧ framed.height = 7 ∧ framed.x = 0 ∧ framed.y = 0 ∧
          framed.pixels = if role.isNone then cells.map (!·) else cells) := by
  intro drawing inFrame overflow
  have hout : ¬inFrame → drawing = (.error overflow, []) :=
    fun h => b.result_drawFrame_of_not_fits h name role
  have hin (h : inFrame) : drawing = (.ok (b.toBitmap.framedRows role).flatten, b.frameRooms) :=
    b.result_drawFrame h name role
  refine ⟨?_, fun h => ⟨hout h, ?_⟩, fun h => ⟨_, _, hin h,
    b.toBitmap.length_flatten_framedRows h role, fun room => b.le_of_mem_frameRooms,
    fun r _ c hc => b.toBitmap.getElem?_flatten_framedRows h hc, fun hwidth => ?_, ?_⟩⟩
  · by_cases h : inFrame
    · rw [hin h, b.toBitmap.frame_of_fits h]
      rfl
    · rw [hout h, b.toBitmap.frame_of_not_fits h]
      rfl
  · rintro s g rfl hbitmap
    exact s.form_of_not_fits hbitmap h
  · exact Bitmap.flatten_framedRows_of_no_columns h (congrArg UInt32.toNat hwidth)
  · rintro s g - hbitmap rfl
    obtain ⟨form, hform, hframed⟩ := s.form_of_fits hbitmap h
    refine ⟨form, _, hform, hframed, ?_⟩
    cases g.role with
    | none => exact ⟨rfl, rfl, rfl, rfl, rfl⟩
    | some role => exact ⟨rfl, rfl, rfl, rfl, rfl⟩

/-- A set pixel over a blank row. -/
def sampleGrid : Bitmap32 where
  width := 2
  height := 2
  x := 1
  y := 3
  pixels := [false, true, false, false]
  covers := rfl

/-- A grid without rows that is as wide as can be. -/
def sampleWideGrid : Bitmap32 where
  width := 0xFFFFFFFF
  height := 0
  x := 1
  y := 0
  pixels := []
  covers := rfl

theorem drawn_cells_sampleGrids :
    (∃ cells rooms, (sampleGrid.drawFrame "a" (some .closing)).result [] = (.ok cells, rooms) ∧
      cells.length = 56 ∧
      ∀ r < 7, ∀ c < 8, cells[r * 8 + c]? = some true ↔
        sampleGrid.toBitmap.Shows (some .closing) c r) ∧
    (sampleWideGrid.drawFrame "a" none).result [] =
      (.error (.frameOverflow "a" 0xFFFFFFFF 0 1 0), []) := by
  obtain ⟨-, -, hdrawn⟩ := drawn_cells "a" sampleGrid (some .closing)
  obtain ⟨cells, rooms, hdrawing, hlength, -, hcells, -, -⟩ := hdrawn (by decide)
  obtain ⟨-, hrefused, -⟩ := drawn_cells "a" sampleWideGrid none
  exact ⟨⟨cells, rooms, hdrawing, hlength, hcells⟩, (hrefused (by decide)).1⟩

end Gridface
