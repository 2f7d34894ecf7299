import Gridface.Proofs.Outline.Positions
import Gridface.Proofs.Project.Drawing
import Gridface.Sheet.Reader
import Mathlib

/-!
# Positions in a sheet

A cel is placed one pixel further left and up than it stands on the canvas, so one at the least
position has no place; its pixels are not looked at. A pixel of a layer may still have no place once
it is counted from the baseline.
-/

namespace Gridface

/-! ## Numbers that are read -/

namespace Json

variable {α : Type} {j : Json}

theorem int?_range {least greatest n : Int} (h : j.int? least greatest = some n) :
    least ≤ n ∧ n ≤ greatest := by
  unfold int? at h
  split at h
  · split at h
    · cases h
      assumption
    · cases h
  · cases h

theorem exists_of_mem_mapM {read : Json → Option α} {xs : List Json} {as : List α} {a : α}
    (h : xs.mapM read = some as) (ha : a ∈ as) : ∃ x, read x = some a := by
  induction xs generalizing as with
  | nil =>
      cases h
      cases ha
  | cons x xs ih =>
      rw [List.mapM_cons] at h
      obtain ⟨b, hb, h⟩ := Option.bind_eq_some_iff.mp h
      obtain ⟨bs, hbs, h⟩ := Option.bind_eq_some_iff.mp h
      cases h
      rcases List.mem_cons.mp ha with rfl | ha
      · exact ⟨x, hb⟩
      · exact ih hbs ha

theorem exists_of_mem_list? {read : Json → Option α} {as : List α} {a : α}
    (h : j.list? read = some as) (ha : a ∈ as) : ∃ x, read x = some a := by
  cases j with
  | array xs => exact exists_of_mem_mapM h ha
  | null => cases h
  | bool value => cases h
  | number value => cases h
  | string value => cases h
  | object members => cases h

end Json

namespace Cel

variable {c : Cel} {cels : List Cel}

/-- The cel stands at a position of the canvas. -/
structure OnCanvas (c : Cel) : Prop where
  x : Position.InRange c.x
  y : Position.InRange c.y

theorem onCanvas_of_ofJson? {j : Json} (h : ofJson? j = some c) : c.OnCanvas := by
  unfold ofJson? at h
  obtain ⟨fields, -, h⟩ := Option.bind_eq_some_iff.mp h
  split at h
  · obtain ⟨layer, -, h⟩ := Option.bind_eq_some_iff.mp h
    obtain ⟨x, hx, h⟩ := Option.bind_eq_some_iff.mp h
    obtain ⟨y, hy, h⟩ := Option.bind_eq_some_iff.mp h
    obtain ⟨width, -, h⟩ := Option.bind_eq_some_iff.mp h
    obtain ⟨height, -, h⟩ := Option.bind_eq_some_iff.mp h
    obtain ⟨values, -, h⟩ := Option.bind_eq_some_iff.mp h
    cases h
    exact ⟨Json.int?_range hx, Json.int?_range hy⟩
  · cases h

end Cel

theorem Sheet.onCanvas_of_ofText {path text : String} {s : Sheet}
    (h : Sheet.ofText path text = .ok s) : ∀ c ∈ s.cels, c.OnCanvas := by
  unfold Sheet.ofText at h
  split at h
  · rename_i sheet hsheet
    cases h
    obtain ⟨j, -, hj⟩ := Option.bind_eq_some_iff.mp hsheet
    unfold Sheet.ofJson? at hj
    obtain ⟨fields, -, hj⟩ := Option.bind_eq_some_iff.mp hj
    split at hj
    · obtain ⟨cels, hcels, hj⟩ := Option.bind_eq_some_iff.mp hj
      cases hj
      intro c hc
      obtain ⟨j, hj⟩ := Json.exists_of_mem_list? hcels hc
      exact Cel.onCanvas_of_ofJson? hj
    · cases hj
  · cases h

/-! ## Cels one after another -/

namespace Cel

variable {c : Cel} {cels : List Cel}

/-- The cel stands in the first column or row that there is, so it has no place in the em box. -/
def AtEdge (c : Cel) : Prop := c.x = Position.least ∨ c.y = Position.least

/-- The cel has a place in the em box, and its pixels cover its grid. -/
structure IsSound (c : Cel) : Prop where
  placed : ¬c.AtEdge
  covered : c.values.length = c.width * c.height

theorem checked_sub_margin {v : Int} (h : Position.InRange v) :
    Position.checked (v - canvasMargin) =
      if v = Position.least then .error .positionOverflow else .ok (v - 1) := by
  unfold Position.InRange at h
  split
  · rename_i hleast
    rw [hleast]
    rfl
  · rename_i hgreater
    refine Position.checked_eq_ok ?_
    unfold Position.InRange canvasMargin
    omega

theorem toLayer_eq (h : c.OnCanvas) :
    c.toLayer = if c.x = Position.least then .error .positionOverflow
      else if c.y = Position.least then .error .positionOverflow
      else (Bitmap.ofPixels? c.layer c.width c.height (c.x - 1) (c.y - 1)
        (c.values.map (· == 1))).map fun bitmap => { name := c.layer, bitmap } := by
  unfold toLayer
  rw [checked_sub_margin h.x, checked_sub_margin h.y]
  split
  · rfl
  · split
    · rfl
    · rfl

theorem toLayer_of_atEdge (h : c.OnCanvas) (hedge : c.AtEdge) :
    c.toLayer = .error .positionOverflow := by
  rw [toLayer_eq h]
  rcases hedge with hx | hy
  · rw [if_pos hx]
  · rw [if_pos hy, ite_self]

theorem toLayer_of_not_atEdge (h : c.OnCanvas) (hplaced : ¬c.AtEdge) :
    c.toLayer = (Bitmap.ofPixels? c.layer c.width c.height (c.x - 1) (c.y - 1)
      (c.values.map (· == 1))).map fun bitmap => { name := c.layer, bitmap } := by
  rw [toLayer_eq h, if_neg fun hx => hplaced (.inl hx), if_neg fun hy => hplaced (.inr hy)]

theorem toLayer_of_not_covered (h : c.OnCanvas) (hplaced : ¬c.AtEdge)
    (hcount : c.values.length ≠ c.width * c.height) :
    c.toLayer = .error (.malformedBitmap c.layer (c.width * c.height) c.values.length) := by
  have hlength : (c.values.map (· == 1)).length ≠ c.width * c.height := by
    rwa [List.length_map]
  rw [toLayer_of_not_atEdge h hplaced, Bitmap.ofPixels?, dif_neg hlength, List.length_map]
  rfl

theorem isSound_of_toLayer {l : Layer} (h : c.OnCanvas) (hl : c.toLayer = .ok l) : c.IsSound := by
  constructor
  case placed =>
    intro hedge
    rw [toLayer_of_atEdge h hedge] at hl
    cases hl
  case covered =>
    obtain ⟨-, hdrawn⟩ := toLayer_eq_ok hl
    rw [← hdrawn.width_eq, ← hdrawn.height_eq, ← l.bitmap.covers, hdrawn.pixels_eq,
      List.length_map]

/-- What comes of cels one after another: a layer of each, or the fault of the first that is not
sound. -/
inductive Outcome (cels : List Cel) : Except Fault (List Layer) → Prop
  | layers {ls : List Layer} (sound : ∀ c ∈ cels, c.IsSound)
      (drawn : List.Forall₂ (fun c l => l.name = c.layer ∧ c.DrawnAs l.bitmap) cels ls) :
      Outcome cels (.ok ls)
  | atEdge {before after : List Cel} {c : Cel} (split : cels = before ++ c :: after)
      (sound : ∀ b ∈ before, b.IsSound) (edge : c.AtEdge) :
      Outcome cels (.error .positionOverflow)
  | malformed {before after : List Cel} {c : Cel} (split : cels = before ++ c :: after)
      (sound : ∀ b ∈ before, b.IsSound) (placed : ¬c.AtEdge)
      (count : c.values.length ≠ c.width * c.height) :
      Outcome cels (.error (.malformedBitmap c.layer (c.width * c.height) c.values.length))

theorem outcome_mapM_toLayer (h : ∀ c ∈ cels, c.OnCanvas) : Outcome cels (cels.mapM toLayer) := by
  cases hrun : cels.mapM toLayer with
  | ok ls =>
      have hmap := mapM_eq_ok.mp hrun
      refine .layers (fun c hc => ?_) ?_
      · obtain ⟨l, -, hl⟩ := exists_of_map_ok hmap hc
        exact isSound_of_toLayer (h c hc) hl
      · exact (forall₂_of_map_ok hmap).imp fun c l => toLayer_eq_ok
  | error e =>
      obtain ⟨before, c, after, hsplit, hbefore, he⟩ := mapM_eq_error.mp hrun
      have hcanvas : c.OnCanvas := h c (hsplit ▸ List.mem_append_right _ List.mem_cons_self)
      have hsound : ∀ b ∈ before, b.IsSound := by
        intro b hb
        obtain ⟨l, hl⟩ := hbefore b hb
        exact isSound_of_toLayer (h b (hsplit ▸ List.mem_append_left _ hb)) hl
      by_cases hedge : c.AtEdge
      · rw [toLayer_of_atEdge hcanvas hedge] at he
        cases he
        exact .atEdge hsplit hsound hedge
      · by_cases hcount : c.values.length = c.width * c.height
        · rw [toLayer_of_not_atEdge hcanvas hedge, Bitmap.ofPixels?,
            dif_pos ((List.length_map _).trans hcount)] at he
          cases he
        · rw [toLayer_of_not_covered hcanvas hedge hcount] at he
          cases he
          exact .malformed hsplit hsound hedge hcount

end Cel

/-! ## Sheets -/

namespace Sheet

variable {α : Type} [Coordinate α]

/-- The cels that become layers. -/
def drawnCels (s : Sheet) : List Cel := s.cels.filter fun c => !c.isScratch

/-- Whatever sheet is read, a build comes to its layers, or to the first cel that is at the edge or
has a wrong count of pixels. A layer has an outline just if its set pixels have positions. In a grid
of at most 2^31 pixels no index, column or row is cut off. -/
theorem positions_in_sheet (m : Metrics) {path text : String} {s : Sheet}
    (h : Sheet.ofText path text = .ok s) :
    Cel.Outcome s.drawnCels s.layers ∧
    ∀ ls, s.layers = .ok ls → ∀ l ∈ ls,
      ((∃ o : Outline α, l.bitmap.outline m = .ok o) ↔
        ∀ p ∈ l.bitmap.filled, l.bitmap.HasPosition m p) ∧
      (¬(∀ p ∈ l.bitmap.filled, l.bitmap.HasPosition m p) →
        (l.bitmap.outline m : Except Fault (Outline α)) = .error .positionOverflow) ∧
      (l.bitmap.pixels.length ≤ 2147483648 →
        (∀ x y, (x, y) ∈ l.bitmap.filled ↔ l.bitmap.HasPixel x y) ∧
        ∀ p ∈ l.bitmap.filled, Position.wrapped p.1 = p.1 ∧ Position.wrapped p.2 = p.2) := by
  refine ⟨?_, fun ls _ l _ => ⟨?_, ?_, fun hsize => ?_⟩⟩
  · refine Cel.outcome_mapM_toLayer fun c hc => ?_
    exact onCanvas_of_ofText h c (List.mem_of_mem_filter hc)
  · exact Bitmap.outline_ok_iff
  · exact Bitmap.outline_eq_overflow
  · have hmem : ∀ x y, (x, y) ∈ l.bitmap.filled ↔ l.bitmap.HasPixel x y :=
      fun x y =>
        Bitmap.mem_filled_iff (Bitmap.isIndexed_of_length (Nat.le_trans hsize (by decide)))
    exact ⟨hmem, fun p hp => Bitmap.wrapped_of_hasPixel hsize ((hmem p.1 p.2).mp hp)⟩

/-- A scratch cel at the edge, and a cel as far out as one can be. -/
def sampleFar : String :=
  "[[[\"--\",-2147483648,0,1,1,[]],[\"a\",-2147483647,2147483647,2,1,[1,0]]]]"

theorem positions_in_sampleFar :
    ∃ s l, Sheet.ofText "far.json" sampleFar = .ok s ∧ Cel.Outcome s.drawnCels s.layers ∧
      s.layers = .ok [l] ∧ ∃ o : Outline Int, l.bitmap.outline {} = .ok o := by
  have hread : Sheet.ofText "far.json" sampleFar =
      .ok ⟨[⟨"--", -2147483648, 0, 1, 1, []⟩, ⟨"a", -2147483647, 2147483647, 2, 1, [1, 0]⟩]⟩ := by
    cbv
  have hlayers : Sheet.layers
      ⟨[⟨"--", -2147483648, 0, 1, 1, []⟩, ⟨"a", -2147483647, 2147483647, 2, 1, [1, 0]⟩]⟩ =
      .ok [⟨"a", ⟨2, 1, -2147483648, 2147483646, [true, false], rfl⟩⟩] := by
    cbv
  obtain ⟨houtcome, hdrawn⟩ := positions_in_sheet (α := Int) {} hread
  obtain ⟨houtline, -⟩ := hdrawn _ hlayers _ List.mem_cons_self
  refine ⟨_, _, hread, houtcome, hlayers, houtline.mpr fun p hp => ?_⟩
  obtain rfl := List.mem_singleton.mp hp
  decide

/-- A cel at the edge whose one pixel is missing. -/
def sampleEdge : String :=
  "\x7b\"cels\":[\x7b\"layer\":\"a\",\"x\":-2147483648,\"y\":0,\"width\":1,\"height\":1," ++
    "\"pixels\":[]\x7d]\x7d"

/-- A pixel in the least row there is. -/
def sampleTop : String :=
  "\x7b\"cels\":[\x7b\"layer\":\"a\",\"x\":1,\"y\":-2147483647,\"width\":1,\"height\":1," ++
    "\"pixels\":[1]\x7d]\x7d"

/-- What is read may still leave the range of positions, in its layers or in their outlines. -/
theorem positions_left_by_sheets :
    (∃ s, Sheet.ofText "edge.json" sampleEdge = .ok s ∧ s.layers = .error .positionOverflow) ∧
    ∃ s l, Sheet.ofText "top.json" sampleTop = .ok s ∧ s.layers = .ok [l] ∧
      (l.bitmap.outline {} : Except Fault (Outline Int)) = .error .positionOverflow := by
  refine ⟨⟨⟨[⟨"a", -2147483648, 0, 1, 1, []⟩]⟩, ?_, ?_⟩,
    ⟨[⟨"a", 1, -2147483647, 1, 1, [1]⟩]⟩, ⟨"a", ⟨1, 1, 0, -2147483648, [true], rfl⟩⟩, ?_, ?_, ?_⟩
  · cbv
  · cbv
  · cbv
  · cbv
  · cbv

end Sheet

end Gridface
