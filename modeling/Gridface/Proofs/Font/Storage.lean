import Gridface.Proofs.Font.Slots
import Gridface.Proofs.Outline.Pixels
import Mathlib.Data.List.Chain

/-!
# What the standard library stores

The standard library stores squares that are few and near each other, and it accepts a font with
short names.
-/

namespace Gridface

theorem isShortStep_iff {v : Int} : isShortStep v = true ↔ FitsUnit v := by
  simp [isShortStep, FitsUnit]

theorem length_flatten_squares (side : Int) (cs : List (Int × Int)) :
    (cs.map (Contour.square side)).flatten.length = 4 * cs.length := by
  induction cs with
  | nil => rfl
  | cons c cs ih =>
      rw [List.map_cons, List.flatten_cons, List.length_append, ih, List.length_cons]
      simp [Contour.square]
      omega

/-- The step from a square on one corner to the one on another is short. -/
def ShortGap (side : Int) (c d : Int × Int) : Prop :=
  FitsUnit (d.1 - (c.1 + side)) ∧ FitsUnit (d.2 - c.2)

theorem all_stepsFrom_squares (side : Int) (start : Int × Int) (cs : List (Int × Int)) :
    ((stepsFrom start.1 ((cs.map (Contour.square side)).flatten.map Prod.fst)).all isShortStep &&
      (stepsFrom start.2 ((cs.map (Contour.square side)).flatten.map Prod.snd)).all isShortStep) =
        true ↔
      (∀ c ∈ cs.head?, FitsUnit (c.1 - start.1) ∧ FitsUnit (c.2 - start.2)) ∧
        (cs ≠ [] → FitsUnit side ∧ FitsUnit (-side)) ∧ cs.IsChain (ShortGap side) := by
  -- the steps go on from the last point of the square before, its lower right corner
  induction cs generalizing start with
  | nil => simp [stepsFrom]
  | cons c cs ih =>
      have hih := ih (c.1 + side, c.2)
      rw [Bool.and_eq_true] at hih
      have hx : stepsFrom start.1
          (((c :: cs).map (Contour.square side)).flatten.map Prod.fst) =
            [c.1 - start.1, c.1 - c.1, c.1 + side - c.1, c.1 + side - (c.1 + side)] ++
              stepsFrom (c.1 + side) ((cs.map (Contour.square side)).flatten.map Prod.fst) := rfl
      have hy : stepsFrom start.2
          (((c :: cs).map (Contour.square side)).flatten.map Prod.snd) =
            [c.2 - start.2, c.2 + side - c.2, c.2 + side - (c.2 + side), c.2 - (c.2 + side)] ++
              stepsFrom c.2 ((cs.map (Contour.square side)).flatten.map Prod.snd) := rfl
      have hup : ∀ v : Int, v + side - v = side := fun v => by omega
      have hdown : c.2 - (c.2 + side) = -side := by omega
      have hzero : FitsUnit 0 := by decide
      rw [hx, hy, List.all_append, List.all_append, List.isChain_cons]
      simp only [List.all_cons, List.all_nil, Bool.and_true, Bool.and_eq_true, isShortStep_iff,
        Int.sub_self, hup, hdown]
      constructor
      · rintro ⟨⟨⟨hleft, -, hside, -⟩, hxs⟩, ⟨hlower, -, -, hneg⟩, hys⟩
        obtain ⟨hhead, -, hchain⟩ := hih.mp ⟨hxs, hys⟩
        refine ⟨?_, fun _ => ⟨hside, hneg⟩, hhead, hchain⟩
        rintro _ ⟨⟩
        exact ⟨hleft, hlower⟩
      · rintro ⟨hfirst, hsides, hhead, hchain⟩
        obtain ⟨hleft, hlower⟩ := hfirst c rfl
        obtain ⟨hside, hneg⟩ := hsides (List.cons_ne_nil c cs)
        obtain ⟨hxs, hys⟩ := hih.mpr ⟨hhead, fun _ => ⟨hside, hneg⟩, hchain⟩
        exact ⟨⟨⟨hleft, hzero, hside, hzero⟩, hxs⟩, ⟨hlower, hside, hzero, hneg⟩, hys⟩

theorem hasShortSteps_squares (side : Int) (cs : List (Int × Int)) :
    hasShortSteps (cs.map (Contour.square side)).flatten = true ↔
      (∀ c ∈ cs.head?, FitsUnit c.1 ∧ FitsUnit c.2) ∧
        (cs ≠ [] → FitsUnit side ∧ FitsUnit (-side)) ∧ cs.IsChain (ShortGap side) := by
  have h := all_stepsFrom_squares side (0, 0) cs
  simp only [Int.sub_zero] at h
  exact h

/-! ## Squares of pixels -/

namespace Bitmap

variable {m : Metrics} {b : Bitmap}

/-- The standard library stores the squares: they are few, and neither a side nor the way from one
square to the next is too long for 16 bits. -/
structure Storable (m : Metrics) (b : Bitmap) : Prop where
  few : b.filled.length < 16384
  side : b.filled ≠ [] → m.scale Int ≤ 32767
  near : b.filled.IsChain fun p q =>
    FitsUnit ((m.corner b.x b.y q).1 - ((m.corner b.x b.y p).1 + m.scale Int)) ∧
      FitsUnit ((m.corner b.x b.y q).2 - (m.corner b.x b.y p).2)

theorem isCountable_squares : isCountable (b.squares m) = true ↔ b.filled.length < 16384 := by
  have hlength := length_flatten_squares (m.scale Int) (b.filled.map (m.corner b.x b.y))
  rw [List.map_map, List.length_map] at hlength
  have hpoints : (b.squares m).flatten.length = 4 * b.filled.length := hlength
  have hcontours : (b.squares m).length = b.filled.length := List.length_map ..
  have hgreatest : greatestUnit.toNat = 32767 := rfl
  rw [isCountable, hpoints, hcontours, hgreatest, Bool.and_eq_true, decide_eq_true_iff,
    decide_eq_true_iff, greatestCount]
  omega

theorem hasShortSteps_squares_iff (hscale : 0 < m.scale Int) (h : ∀ p ∈ b.filled, b.FitsUnits m p) :
    hasShortSteps (b.squares m).flatten = true ↔
      (b.filled ≠ [] → m.scale Int ≤ 32767) ∧
        b.filled.IsChain fun p q =>
          ShortGap (m.scale Int) (m.corner b.x b.y p) (m.corner b.x b.y q) := by
  have hsteps := hasShortSteps_squares (m.scale Int) (b.filled.map (m.corner b.x b.y))
  rw [List.map_map, List.isChain_map] at hsteps
  -- the first step starts at the origin, so it is as long as the corner is far
  have hfirst : ∀ c ∈ (b.filled.map (m.corner b.x b.y)).head?, FitsUnit c.1 ∧ FitsUnit c.2 := by
    intro c hc
    obtain ⟨p, hp, rfl⟩ := List.mem_map.mp (List.mem_of_head? hc)
    exact ⟨(h p hp).left, (h p hp).bottom⟩
  have hside : FitsUnit (m.scale Int) ∧ FitsUnit (-m.scale Int) ↔ m.scale Int ≤ 32767 := by
    unfold FitsUnit leastUnit greatestUnit
    omega
  refine hsteps.trans ?_
  rw [hside, Ne, List.map_eq_nil_iff]
  exact and_iff_right hfirst

theorem storable_iff (hscale : 0 < m.scale Int) (h : ∀ p ∈ b.filled, b.FitsUnits m p) :
    FontLibrary.standard.obstacle? (b.squares m) = none ↔ b.Storable m := by
  have hcount := isCountable_squares (m := m) (b := b)
  have hsteps := hasShortSteps_squares_iff hscale h
  show Obstacle.ofContours? (b.squares m) = none ↔ _
  unfold Obstacle.ofContours?
  cases hc : isCountable (b.squares m) with
  | false =>
      have hmany : ¬b.Storable m := fun hs => by simp [hcount.mpr hs.few] at hc
      simp [hmany]
  | true =>
      cases hs : hasShortSteps (b.squares m).flatten with
      | false =>
          have hlong : ¬b.Storable m := fun hb => by simp [hsteps.mpr ⟨hb.side, hb.near⟩] at hs
          simp [hlong]
      | true =>
          obtain ⟨hside, hnear⟩ := hsteps.mp hs
          simp [Storable.mk (hcount.mp hc) hside hnear]

end Bitmap

/-! ## Fonts with short names -/

namespace Roster

variable {α : Type} [Coordinate α] {t : Roster α} {n : Naming}

open FontFile

/-- The standard library accepts a font without substitutions, if its names and those of its glyphs
are short. -/
theorem isAccepted_standard {gs : List FontGlyph} (hglyphs : t.fontGlyphs .standard = .ok gs)
    (hshort : hasLongGlyphName gs = false) (hnames : hasLongNames n.records = false)
    (hnone : (Substitutions.compile t.ligatures t.alternates t.rules).1 = none) :
    t.IsAccepted n .standard := by
  intro font hfont
  have hassembled := assembled_of_compileTables hfont
  cases hglyphs.symm.trans hassembled.glyphs
  have hsubstitutions : font.substitutions = none := hassembled.substitutions.trans hnone
  show flaw? font = none
  unfold flaw?
  rw [hshort, hassembled.names, hnames, hsubstitutions]
  rfl

/-- Runs of the parts of a font are seen in the font. -/
theorem exists_font_of_runs {β : Type} {f : List FontGlyph → β} {b : β} (hfault : t.fault? = none)
    (hglyphs :
      (t.fontGlyphs .standard).map (fun gs => (f gs, hasLongGlyphName gs)) = .ok (b, false))
    (hmaps : ∃ maps, CharacterMap.compile CharacterMap.storageFault? t.mappings = .ok maps)
    (hnames : hasLongNames n.records = false)
    (hnone : (Substitutions.compile t.ligatures t.alternates t.rules).1 = none) :
    ∃ font, (t.assemble n).outcome = .ok font ∧ f font.glyphs = b := by
  obtain ⟨gs, hgs, hparts⟩ := map_eq_ok.mp hglyphs
  obtain ⟨rfl, hshort⟩ := Prod.mk.inj hparts
  obtain ⟨font, hfont⟩ := exists_assemble hfault ⟨gs, hgs⟩ hmaps
    (isAccepted_standard hgs hshort hnames hnone)
  cases hgs.symm.trans (assembled_of_assemble hfont).glyphs
  exact ⟨font, hfont, rfl⟩

end Roster

end Gridface
