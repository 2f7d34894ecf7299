import Gridface.Proofs.Font.Glyphs

/-!
# Measures of all glyphs

The measures of a font are taken glyph by glyph. They are least and greatest values over the glyphs
with ink, and none of them is cut off where it is stored.
-/

namespace Gridface

/-! ## Bounds of sets that may be empty -/

/-- There is a value just if there is anything in the set, and it bounds the set. -/
def IfAny {β : Type} (bounds : Set β → β → Prop) (s : Set β) : Option β → Prop
  | none => s = ∅
  | some v => s.Nonempty ∧ bounds s v

section

variable {β : Type} {bounds : Set β → β → Prop} {s : Set β} {v : Option β}

theorem IfAny.insert {join : β → β → β} (hone : ∀ a, bounds {a} a)
    (hmore : ∀ s a b, bounds s b → bounds (Insert.insert a s) (join a b))
    (h : IfAny bounds s v) (a : β) :
    IfAny bounds (Insert.insert a s) (some (v.elim a (join a))) := by
  refine ⟨Set.insert_nonempty a s, ?_⟩
  cases v with
  | none =>
      obtain rfl : s = ∅ := h
      show bounds (Insert.insert a ∅) a
      rw [insert_empty_eq]
      exact hone a
  | some b => exact hmore s a b h.2

theorem IfAny.holds_getD {p : β → Prop} {default : β} (h : IfAny bounds s v) (hdefault : p default)
    (hbounds : ∀ b, s.Nonempty → bounds s b → p b) : p (v.getD default) := by
  cases v with
  | none => exact hdefault
  | some b => exact hbounds b h.1 h.2

theorem IfAny.eq_none (h : IfAny bounds s v) (hs : s = ∅) : v = none := by
  cases v with
  | none => rfl
  | some b => exact absurd hs h.1.ne_empty

end

/-- The greatest of some numbers, or zero if there are none. -/
def IsMost (s : Set Nat) (n : Nat) : Prop := IsGreatest s n ∨ s = ∅ ∧ n = 0

theorem IsMost.insert {s : Set Nat} {n : Nat} (h : IsMost s n) (a : Nat) :
    IsMost (Insert.insert a s) (max n a) := by
  left
  rcases h with h | ⟨rfl, rfl⟩
  · rw [Nat.max_comm]
    exact h.insert a
  · rw [insert_empty_eq, Nat.zero_max]
    exact isGreatest_singleton

theorem IsMost.isGreatest {s : Set Nat} {n : Nat} (h : IsMost s n) (hne : s.Nonempty) :
    IsGreatest s n := by
  rcases h with h | ⟨hnone, -⟩
  · exact h
  · exact absurd hnone hne.ne_empty

theorem IsMost.eq_zero {s : Set Nat} {n : Nat} (h : IsMost s n) (hs : s = ∅) : n = 0 := by
  rcases h with h | ⟨-, hzero⟩
  · exact absurd hs h.nonempty.ne_empty
  · exact hzero

theorem IsMost.capped {s : Set Nat} {m cap : Nat} (h : ∃ n, IsMost s n ∧ m = min n cap) (a : Nat) :
    ∃ n, IsMost (Insert.insert a s) n ∧ max m (min a cap) = min n cap := by
  obtain ⟨n, hn, rfl⟩ := h
  exact ⟨max n a, hn.insert a, (min_max_distrib_right n a cap).symm⟩

/-! ## Measures -/

/-- What is measured on the glyphs with ink. -/
def inkValues {β : Type} (gs : List FontGlyph) (f : FontGlyph → Box → β) : Set β :=
  {v | ∃ g ∈ gs, ∃ box, g.Inked box ∧ f g box = v}

section

variable {β : Type} {gs : List FontGlyph} {g : FontGlyph} {box : Box}

theorem FontGlyph.Blank.not_inked (h : g.Blank) : ¬g.Inked box :=
  fun hink => hink.has_contours h.contours_eq

theorem FontGlyph.Inked.box_unique {box' : Box} (h : g.Inked box) (h' : g.Inked box') :
    box = box' := Option.some.inj (h.box_eq.symm.trans h'.box_eq)

theorem inkValues_nil (f : FontGlyph → Box → β) : inkValues [] f = ∅ := by
  refine Set.eq_empty_of_forall_notMem fun v => ?_
  rintro ⟨g, hg, -⟩
  cases hg

theorem inkValues_concat_blank (hg : g.Blank) (f : FontGlyph → Box → β) :
    inkValues (gs ++ [g]) f = inkValues gs f := by
  ext v
  constructor
  · rintro ⟨g', hg', box, hink, rfl⟩
    rcases List.mem_append.mp hg' with hg' | hg'
    · exact ⟨g', hg', box, hink, rfl⟩
    · rw [List.mem_singleton.mp hg'] at hink
      exact absurd hink hg.not_inked
  · rintro ⟨g', hg', hrest⟩
    exact ⟨g', List.mem_append_left [g] hg', hrest⟩

theorem inkValues_concat_inked (hg : g.Inked box) (f : FontGlyph → Box → β) :
    inkValues (gs ++ [g]) f = insert (f g box) (inkValues gs f) := by
  ext v
  constructor
  · rintro ⟨g', hg', box', hink, rfl⟩
    rcases List.mem_append.mp hg' with hg' | hg'
    · exact Set.mem_insert_of_mem _ ⟨g', hg', box', hink, rfl⟩
    · rw [List.mem_singleton.mp hg'] at hink ⊢
      rw [hg.box_unique hink]
      exact Set.mem_insert _ _
  · rintro (rfl | ⟨g', hg', hrest⟩)
    · exact ⟨g, List.mem_concat_self, box, hg, rfl⟩
    · exact ⟨g', List.mem_append_left [g] hg', hrest⟩

end

/-- The measures are those of the given glyphs: of all of them for the advance, and otherwise of
those with ink. -/
structure Extents.Measures (e : Extents) (gs : List FontGlyph) : Prop where
  advance : IsMost {a | ∃ g ∈ gs, g.advance = a} e.advanceMax
  box : IfAny IsLUB (inkValues gs fun _ box => box) e.box
  leftBearing : IfAny IsLeast (inkValues gs fun _ box => box.xMin) e.minLeftBearing
  rightBearing :
    IfAny IsLeast (inkValues gs fun g box => clampUnit (g.advance - box.xMax)) e.minRightBearing
  extent : IfAny IsGreatest (inkValues gs fun _ box => box.xMax) e.maxExtent
  points : ∃ n, IsMost (inkValues gs fun g _ => g.pointCount) n ∧ e.maxPoints = min n greatestCount
  contours : ∃ n, IsMost (inkValues gs fun g _ => g.contours.length) n ∧
    e.maxContours = min n greatestCount

namespace Extents

variable {e : Extents} {gs : List FontGlyph} {g : FontGlyph}

theorem advances_concat (gs : List FontGlyph) (g : FontGlyph) :
    {a | ∃ g' ∈ gs ++ [g], g'.advance = a} = insert g.advance {a | ∃ g' ∈ gs, g'.advance = a} := by
  ext a
  simp only [List.mem_append, List.mem_singleton, Set.mem_ofPred_eq, Set.mem_insert_iff]
  constructor
  · rintro ⟨g', hg' | rfl, rfl⟩
    · exact .inr ⟨g', hg', rfl⟩
    · exact .inl rfl
  · rintro (rfl | ⟨g', hg', rfl⟩)
    · exact ⟨g, .inr rfl, rfl⟩
    · exact ⟨g', .inl hg', rfl⟩

theorem measures_nil : Measures {} [] := by
  have hadvances : {a | ∃ g ∈ ([] : List FontGlyph), g.advance = a} = ∅ := by simp
  constructor
  case advance => exact .inr ⟨hadvances, rfl⟩
  case box => exact inkValues_nil _
  case leftBearing => exact inkValues_nil _
  case rightBearing => exact inkValues_nil _
  case extent => exact inkValues_nil _
  case points => exact ⟨0, .inr ⟨inkValues_nil _, rfl⟩, rfl⟩
  case contours => exact ⟨0, .inr ⟨inkValues_nil _, rfl⟩, rfl⟩

theorem Measures.add_blank (h : e.Measures gs) (hg : g.Blank) :
    (e.add g).Measures (gs ++ [g]) := by
  have hadd : e.add g = { e with advanceMax := max e.advanceMax g.advance } := by
    rw [add, hg.box_eq]
  rw [hadd]
  constructor
  case advance =>
    rw [advances_concat]
    exact h.advance.insert g.advance
  all_goals
    simp only [inkValues_concat_blank hg]
  case box => exact h.box
  case leftBearing => exact h.leftBearing
  case rightBearing => exact h.rightBearing
  case extent => exact h.extent
  case points => exact h.points
  case contours => exact h.contours

theorem Measures.add_inked {box : Box} (h : e.Measures gs) (hg : g.Inked box) :
    (e.add g).Measures (gs ++ [g]) := by
  have hleast : ∀ (s : Set Int) a b, IsLeast s b → IsLeast (insert a s) (min a b) :=
    fun s a b hb => hb.insert a
  constructor
  case advance =>
    have hmax : (e.add g).advanceMax = max e.advanceMax g.advance := by rw [add, hg.box_eq]
    rw [advances_concat, hmax]
    exact h.advance.insert g.advance
  all_goals
    rw [add, hg.box_eq]
    simp only [inkValues_concat_inked hg]
  case box =>
    exact h.box.insert (fun _ => isLUB_singleton) (fun s a b hb => Box.isLUB_insert hb a) box
  case leftBearing => exact h.leftBearing.insert (fun _ => isLeast_singleton) hleast _
  case rightBearing => exact h.rightBearing.insert (fun _ => isLeast_singleton) hleast _
  case extent =>
    exact h.extent.insert (fun _ => isGreatest_singleton) (fun s a b hb => hb.insert a) _
  case points => exact IsMost.capped h.points _
  case contours => exact IsMost.capped h.contours _

theorem measures_ofGlyphs (gs : List FontGlyph) (h : ∀ g ∈ gs, g.Blank ∨ ∃ box, g.Inked box) :
    (ofGlyphs gs).Measures gs := by
  -- from the left, as the glyphs are taken in: each one is added to the measures of those before it
  induction gs using List.reverseRecOn with
  | nil => exact measures_nil
  | append_singleton gs g ih =>
      rw [List.forall_mem_append] at h
      obtain ⟨hgs, hg⟩ := h
      rw [ofGlyphs, List.foldl_append]
      rcases List.forall_mem_singleton.mp hg with hblank | ⟨box, hink⟩
      · exact (ih hgs).add_blank hblank
      · exact (ih hgs).add_inked hink

theorem Measures.eq_of_blank (h : e.Measures gs) (hblank : ∀ g ∈ gs, g.contours = []) :
    e = { advanceMax := e.advanceMax } := by
  have hnone : ∀ {β : Type} (f : FontGlyph → Box → β), inkValues gs f = ∅ := by
    intro β f
    refine Set.eq_empty_of_forall_notMem fun v => ?_
    rintro ⟨g, hg, box, hink, -⟩
    exact hink.has_contours (hblank g hg)
  obtain ⟨points, hpoints, hmaxPoints⟩ := h.points
  obtain ⟨contours, hcontours, hmaxContours⟩ := h.contours
  rw [hpoints.eq_zero (hnone _), Nat.zero_min] at hmaxPoints
  rw [hcontours.eq_zero (hnone _), Nat.zero_min] at hmaxContours
  rw [Extents.mk.injEq]
  exact ⟨h.box.eq_none (hnone _), rfl, h.leftBearing.eq_none (hnone _),
    h.rightBearing.eq_none (hnone _), h.extent.eq_none (hnone _), hmaxPoints, hmaxContours⟩

end Extents

/-! ## Values of 16 bits -/

/-- Whole font units are numbers of 16 bits. -/
class ShortCoordinate (α : Type) [Coordinate α] : Prop where
  rounded_fits (v : α) : FitsUnit (Coordinate.rounded v)

theorem clampUnit_fits (v : Int) : FitsUnit (clampUnit v) := by
  unfold FitsUnit clampUnit leastUnit greatestUnit
  omega

instance : ShortCoordinate Int where
  rounded_fits v := clampUnit_fits v

instance : ShortCoordinate Float where
  rounded_fits v :=
    ⟨Int16.le_toInt (v + 0.5).floor.toInt16,
      Int.le_of_lt_add_one (Int16.toInt_lt (v + 0.5).floor.toInt16)⟩

/-- All advances are numbers of 16 bits. -/
structure Roster.HasShortAdvances {α : Type} (t : Roster α) : Prop where
  unitsPerEm : t.metrics.unitsPerEm ≤ greatestCount
  entries : ∀ e ∈ t.entries, e.advance ≤ greatestCount

/-- Nothing measured on the glyph is too great for 16 bits, but for the room on its right, which is
a number of 32 bits, and for the counts of its points and contours. -/
structure FontGlyph.Fits (g : FontGlyph) : Prop where
  advance : g.advance ≤ greatestCount
  bearing : FitsUnit g.sideBearing
  box : ∀ box, g.Inked box → box.Fits ∧ Position.InRange (g.advance - box.xMax)

/-- The tables of the file have the measures of the font, with zero for those that are missing. -/
structure FontFile.HasExtents (f : Font) : Prop where
  box : ∀ adjustment, [36, 38, 40, 42].map (signedWordAt? (head f adjustment)) =
    [Box.xMin, Box.yMin, Box.xMax, Box.yMax].map fun side =>
      some (side (f.extents.box.getD Box.zero))
  advance : wordAt? (hhea f) 10 = some f.extents.advanceMax
  bearings : [12, 14, 16].map (signedWordAt? (hhea f)) =
    [f.extents.minLeftBearing, f.extents.minRightBearing, f.extents.maxExtent].map fun measure =>
      some (measure.getD 0)
  counts : [6, 8].map (wordAt? (maxp f)) =
    [f.extents.maxPoints, f.extents.maxContours].map some

namespace FontFile

variable {f : Font}

theorem hasExtents (hmeasures : f.extents.Measures f.glyphs) (hfits : ∀ g ∈ f.glyphs, g.Fits) :
    HasExtents f := by
  have hzero : FitsUnit 0 := by decide
  have hbox : (f.extents.box.getD Box.zero).Fits := by
    refine hmeasures.box.holds_getD ⟨hzero, hzero, hzero, hzero⟩ fun box hne hbox => ?_
    refine Box.fits_of_isLUB hbox hne ?_
    rintro _ ⟨g, hg, box, hink, rfl⟩
    exact ((hfits g hg).box box hink).1
  constructor
  case box =>
    intro adjustment
    have hxMin : signedWordAt? (head f adjustment) 36 = some _ :=
      signedWordAt?_eq_some rfl hbox.xMin
    have hyMin : signedWordAt? (head f adjustment) 38 = some _ :=
      signedWordAt?_eq_some rfl hbox.yMin
    have hxMax : signedWordAt? (head f adjustment) 40 = some _ :=
      signedWordAt?_eq_some rfl hbox.xMax
    have hyMax : signedWordAt? (head f adjustment) 42 = some _ :=
      signedWordAt?_eq_some rfl hbox.yMax
    simp only [List.map_cons, List.map_nil, hxMin, hyMin, hxMax, hyMax]
  case advance =>
    refine wordAt?_eq_some rfl ?_
    rcases hmeasures.advance with ⟨⟨g, hg, hadvance⟩, -⟩ | ⟨-, hnone⟩
    · exact hadvance ▸ (hfits g hg).advance
    · rw [hnone]
      exact Nat.zero_le _
  case bearings =>
    have hleft : FitsUnit (f.extents.minLeftBearing.getD 0) := by
      refine hmeasures.leftBearing.holds_getD hzero ?_
      rintro _ - ⟨⟨g, hg, box, hink, rfl⟩, -⟩
      exact ((hfits g hg).box box hink).1.xMin
    have hright : FitsUnit (f.extents.minRightBearing.getD 0) := by
      refine hmeasures.rightBearing.holds_getD hzero ?_
      rintro _ - ⟨⟨g, hg, box, hink, rfl⟩, -⟩
      exact clampUnit_fits _
    have hextent : FitsUnit (f.extents.maxExtent.getD 0) := by
      refine hmeasures.extent.holds_getD hzero ?_
      rintro _ - ⟨⟨g, hg, box, hink, rfl⟩, -⟩
      exact ((hfits g hg).box box hink).1.xMax
    have hleft' : signedWordAt? (hhea f) 12 = some _ := signedWordAt?_eq_some rfl hleft
    have hright' : signedWordAt? (hhea f) 14 = some _ := signedWordAt?_eq_some rfl hright
    have hextent' : signedWordAt? (hhea f) 16 = some _ := signedWordAt?_eq_some rfl hextent
    simp only [List.map_cons, List.map_nil, hleft', hright', hextent']
  case counts =>
    obtain ⟨points, -, hpoints⟩ := hmeasures.points
    obtain ⟨contours, -, hcontours⟩ := hmeasures.contours
    have hpoints' : wordAt? (maxp f) 6 = some f.extents.maxPoints :=
      wordAt?_eq_some rfl (hpoints ▸ Nat.min_le_right _ _)
    have hcontours' : wordAt? (maxp f) 8 = some f.extents.maxContours :=
      wordAt?_eq_some rfl (hcontours ▸ Nat.min_le_right _ _)
    simp only [List.map_cons, List.map_nil, hpoints', hcontours']

end FontFile

variable {α : Type} [Coordinate α] {t : Roster α} {n : Naming} {library : FontLibrary} {font : Font}

theorem Roster.exists_ofOutline {gs : List FontGlyph} (hgs : t.fontGlyphs library = .ok gs)
    {g : FontGlyph} (hg : g ∈ gs) : ∃ id name advance, ∃ outline : Outline α,
      FontGlyph.ofOutline library id name advance outline = .ok g ∧
        (t.HasShortAdvances → advance ≤ greatestCount) := by
  obtain ⟨id, -, hid⟩ := (mem_iff_of_map_ok (fontGlyphs_eq_ok.mp hgs)).mp hg
  cases hdrawn : t.drawn? id with
  | some e =>
      rw [hdrawn] at hid
      exact ⟨id, e.name, e.advance, e.outline, hid,
        fun hshort => hshort.entries e (drawn?_eq_some hdrawn).1⟩
  | none =>
      rw [hdrawn] at hid
      unfold fontGlyph at hid
      simp only at hid
      split at hid
      · exact ⟨id, notdefName, t.metrics.unitsPerEm, [], hid, fun hshort => hshort.unitsPerEm⟩
      · exact ⟨id, FontGlyph.gapName id, 0, [], hid, fun _ => Nat.zero_le _⟩

variable [ShortCoordinate α]

theorem FontGlyph.fits_of_ofOutline {id : GlyphId} {name : String} {advance : Nat}
    {outline : Outline α} {g : FontGlyph} (h : ofOutline library id name advance outline = .ok g)
    (hadvance : advance ≤ greatestCount) : g.Fits := by
  have hdraws := draws_of_ofOutline h
  obtain ⟨cs, hcs, -, hg⟩ := ofOutline_eq_ok h
  have hcontours : g.contours = cs.map Contour.rounded := by rw [hg]
  have hbox : ∀ box, g.Inked box → box.Fits := by
    intro box hink
    have haround : Box.around? g.contours.flatten = some box := by
      rw [← hink.box_eq, hg]
    refine hink.around.fits (Box.around?_eq_some_iff.mp haround).1 fun p hp => ?_
    obtain ⟨c, hc, hp⟩ := List.mem_flatten.mp hp
    rw [hcontours] at hc
    obtain ⟨c', -, rfl⟩ := List.mem_map.mp hc
    obtain ⟨q, -, rfl⟩ := List.mem_map.mp hp
    exact ⟨ShortCoordinate.rounded_fits q.1, ShortCoordinate.rounded_fits q.2⟩
  rw [← hdraws.advance_eq] at hadvance
  constructor
  case advance => exact hadvance
  case bearing =>
    rcases hdraws.ink with hblank | ⟨box, hink⟩
    · rw [hblank.bearing]
      decide
    · rw [hink.bearing]
      exact (hbox box hink).xMin
  case box =>
    intro box hink
    refine ⟨hbox box hink, ?_⟩
    obtain ⟨hleast, hgreatest⟩ := (hbox box hink).xMax
    unfold greatestCount at hadvance
    unfold leastUnit at hleast
    unfold greatestUnit at hgreatest
    simp only [Position.InRange, Position.least, Position.greatest]
    omega

/-- Whatever library makes a font, each glyph is blank or has ink in the box around its points. The
measures of the font are bounds over its glyphs, and those of counts are capped; without ink all but
the advance are missing, which counts as zero. If the advances are numbers of 16 bits, nothing else
is cut off where the measures are taken, and nothing where they are stored. -/
theorem measures_of_font (h : (t.assemble n library).outcome = .ok font) :
    (∀ g ∈ font.glyphs, g.Blank ∨ ∃ box, g.Inked box) ∧
      font.extents.Measures font.glyphs ∧
      IsGreatest {a | ∃ g ∈ font.glyphs, g.advance = a} font.extents.advanceMax ∧
      ((∀ g ∈ font.glyphs, g.contours = []) →
        font.extents = { advanceMax := font.extents.advanceMax }) ∧
      (t.HasShortAdvances → (∀ g ∈ font.glyphs, g.Fits) ∧ FontFile.HasExtents font) := by
  have hassembled := Roster.assembled_of_assemble h
  have hink : ∀ g ∈ font.glyphs, g.Blank ∨ ∃ box, g.Inked box := by
    intro g hg
    obtain ⟨id, name, advance, outline, hok, -⟩ := Roster.exists_ofOutline hassembled.glyphs hg
    exact (FontGlyph.draws_of_ofOutline hok).ink
  have hmeasures : font.extents.Measures font.glyphs := by
    rw [hassembled.extents]
    exact Extents.measures_ofGlyphs font.glyphs hink
  refine ⟨hink, hmeasures, hmeasures.advance.isGreatest ?_, hmeasures.eq_of_blank,
    fun hshort => ?_⟩
  · have hpos : 0 < font.glyphs.length := by
      rw [Roster.length_of_fontGlyphs hassembled.glyphs]
      exact t.glyphCount_pos
    exact ⟨_, font.glyphs[0], List.getElem_mem hpos, rfl⟩
  · have hfits : ∀ g ∈ font.glyphs, g.Fits := by
      intro g hg
      obtain ⟨id, name, advance, outline, hok, hadvance⟩ :=
        Roster.exists_ofOutline hassembled.glyphs hg
      exact FontGlyph.fits_of_ofOutline hok (hadvance hshort)
    exact ⟨hfits, FontFile.hasExtents hmeasures hfits⟩

/-- Ink to the left of the origin and below it, and a wide glyph without ink. -/
def sampleBehind : Roster Int where
  metrics := {}
  entries := [⟨"a", "a", 2, none, 60, Outline.square (-300) (-200) (-100) (-50)⟩,
    ⟨"b", "b", 3, none, 2000, []⟩]
  ligatures := []
  alternates := []
  rules := []
  unresolved := []

/-- A library that stores everything. -/
def FontLibrary.boundless : FontLibrary :=
  { FontLibrary.standard with obstacle? := fun _ => none, flaw? := fun _ => none }

/-- The outline of so many squares that 16 bits do not count their points. -/
def sampleCrowd : Outline Int := Outline.squares 1 (List.replicate 20000 (0, 0))

/-- A glyph that is crowded with points. -/
def sampleCrowded : Roster Int where
  metrics := {}
  entries := [⟨"a", "a", 1, none, 60, sampleCrowd⟩]
  ligatures := []
  alternates := []
  rules := []
  unresolved := []

theorem contours_sampleCrowd : sampleCrowd.contours =
    .ok ((List.replicate 20000 (0, 0)).map (Contour.square 1)) :=
  Outline.contours_squares Int.one_ne_zero _

theorem pointCount_of_sampleCrowd {g : FontGlyph} (h : g.Draws 1 "a" 60 sampleCrowd) :
    g.pointCount = 80000 := by
  obtain ⟨cs, hcs, hcontours⟩ := h.contours
  cases hcs.symm.trans contours_sampleCrowd
  have hrounded : ((List.replicate 20000 (0, 0)).map (Contour.square 1)).map Contour.rounded =
      (List.replicate 20000 (0, 0)).map (Contour.square 1) := by
    rw [List.map_map]
    refine List.map_congr_left fun c hc => ?_
    rw [List.eq_of_mem_replicate hc]
    rfl
  rw [FontGlyph.pointCount, hcontours, hrounded, length_flatten_squares, List.length_replicate]

theorem font_of_sampleCrowded : ∃ font,
    (sampleCrowded.assemble default .boundless).outcome = .ok font ∧
      ∃ g ∈ font.glyphs, g.pointCount = 80000 ∧ ∃ box, g.Inked box := by
  have hglyphs : ∃ gs, sampleCrowded.fontGlyphs .boundless = .ok gs := by
    refine Roster.exists_fontGlyphs rfl fun e he => ?_
    rw [List.mem_singleton.mp he]
    exact FontGlyph.exists_ofOutline contours_sampleCrowd rfl
  have hmaps : CharacterMap.compile FontLibrary.boundless.storageFault? sampleCrowded.mappings =
      .ok [] := by
    decide +kernel
  obtain ⟨font, hfont⟩ := Roster.exists_assemble (n := default) rfl hglyphs ⟨[], hmaps⟩
    fun _ _ => rfl
  obtain ⟨g, hg, hok⟩ := Roster.getElem?_fontGlyphs (e := ⟨"a", "a", 1, none, 60, sampleCrowd⟩)
    (Roster.assembled_of_assemble hfont).glyphs rfl (by decide)
  have hdraws := FontGlyph.draws_of_ofOutline hok
  have hcount := pointCount_of_sampleCrowd hdraws
  refine ⟨font, hfont, g, List.mem_of_getElem? hg, hcount, ?_⟩
  rcases hdraws.ink with hblank | hink
  · rw [FontGlyph.pointCount, hblank.contours_eq] at hcount
    cases hcount
  · exact hink

theorem measures_of_samples :
    (∃ font, (sampleBehind.assemble default).outcome = .ok font ∧
      font.extents =
        ⟨some ⟨-300, -200, -100, -50⟩, 2000, some (-300), some 160, some (-100), 4, 1⟩ ∧
      font.extents.Measures font.glyphs ∧ FontFile.HasExtents font) ∧
    ∃ font, (sampleCrowded.assemble default .boundless).outcome = .ok font ∧
      font.extents.maxPoints = 65535 ∧ FontFile.HasExtents font := by
  constructor
  · have hrun : ((sampleBehind.assemble default).outcome.map Font.extents) =
        .ok ⟨some ⟨-300, -200, -100, -50⟩, 2000, some (-300), some 160, some (-100), 4, 1⟩ := by
      decide +kernel
    obtain ⟨font, hfont, hextents⟩ := map_eq_ok.mp hrun
    have hshort : sampleBehind.HasShortAdvances := ⟨by decide, by decide⟩
    obtain ⟨-, hmeasures, -, -, hfits⟩ := measures_of_font hfont
    exact ⟨font, hfont, hextents, hmeasures, (hfits hshort).2⟩
  · obtain ⟨font, hfont, g, hg, hcount, box, hink⟩ := font_of_sampleCrowded
    have hshort : sampleCrowded.HasShortAdvances :=
      ⟨by decide, List.forall_mem_singleton.mpr (by decide)⟩
    obtain ⟨-, hmeasures, -, -, hfits⟩ := measures_of_font hfont
    obtain ⟨most, hmost, hcapped⟩ := hmeasures.points
    have hmem : 80000 ∈ inkValues font.glyphs fun g _ => g.pointCount := ⟨g, hg, box, hink, hcount⟩
    have hle : 80000 ≤ most := (hmost.isGreatest ⟨_, hmem⟩).2 hmem
    refine ⟨font, hfont, ?_, (hfits hshort).2⟩
    rw [hcapped, greatestCount]
    omega

end Gridface
