import Gridface.Proofs.Checked
import Gridface.Proofs.Font.Extents

/-!
# The mean advance

The mean is taken of the advances that move the pen and of one em. Its sum is a number of 32 bits:
of as many advances as a font can have glyphs, none of them too great for 16 bits, it is just small
enough.
-/

namespace Gridface

/-! ## Numbers of 16 bits among those of 32 -/

theorem toNat_ofNat_of_short {a : Nat} (h : a ≤ greatestCount) : (UInt32.ofNat a).toNat = a := by
  refine UInt32.toNat_ofNat_of_lt' (Nat.lt_of_le_of_lt h ?_)
  decide

theorem map_toNat_positive {as : List Nat} (h : ∀ a ∈ as, a ≤ greatestCount) :
    ((as.map UInt32.ofNat).filter (0 < ·)).map UInt32.toNat = as.filter (0 < ·) := by
  induction as with
  | nil => rfl
  | cons a as ih =>
      obtain ⟨ha, has⟩ := List.forall_mem_cons.mp h
      have hpos : 0 < UInt32.ofNat a ↔ 0 < a := by
        rw [UInt32.lt_iff_toNat_lt, toNat_ofNat_of_short ha]
        rfl
      simp only [List.map_cons, List.filter_cons, decide_eq_true_eq, hpos]
      split
      · rw [List.map_cons, toNat_ofNat_of_short ha, ih has]
      · exact ih has

theorem toInt_capped (v : UInt32) :
    (min v 32767).toUInt16.toInt16.toInt = min v.toNat greatestUnit.toNat := by
  have hcap : (min v 32767).toNat = min v.toNat greatestUnit.toNat := UInt32.toNat_min v 32767
  have hlt : (min v 32767).toNat < 2 ^ 15 := by
    rw [hcap]
    exact Nat.lt_of_le_of_lt (Nat.min_le_right ..) (by decide)
  rw [← UInt16.ofNat_uInt32ToNat, UInt16.toInt16_ofNat', Int16.toInt_ofNat_of_lt hlt, hcap]

namespace Roster

variable {α : Type} {t : Roster α}

/-! ## The mean in 32 bits -/

/-- The advances that the mean is taken of: those that move the pen, and one em. -/
def strides (t : Roster α) : List Nat :=
  (t.entries.map Entry.advance).filter (0 < ·) ++ [t.metrics.unitsPerEm]

/-- The same advances as numbers of 32 bits. -/
def strides32 (t : Roster α) : List UInt32 :=
  ((t.entries.map Entry.advance).map UInt32.ofNat).filter (0 < ·) ++
    [UInt32.ofNat t.metrics.unitsPerEm]

/-- The mean advance as it is taken in 32 bits and stored in 16. A sum that leaves its range is
refused, and so is a division by zero. -/
def averageAdvance? (t : Roster α) : Option Int16 := do
  let sum ← Checked.sum t.strides32
  let mean ← Checked.div sum (UInt32.ofNat t.strides32.length)
  return (min mean 32767).toUInt16.toInt16

theorem averageAdvance_eq (t : Roster α) :
    t.averageAdvance = min (t.strides.sum / t.strides.length) greatestUnit.toNat := by
  rw [List.sum_eq_foldl]
  rfl

theorem averageAdvance_le (t : Roster α) : (t.averageAdvance : Int) ≤ greatestUnit := by
  rw [averageAdvance_eq]
  exact Int.ofNat_le.mpr (Nat.min_le_right ..)

theorem toNat_strides32 (h : t.HasShortAdvances) : t.strides32.map UInt32.toNat = t.strides := by
  have hshort : ∀ a ∈ t.entries.map Entry.advance, a ≤ greatestCount := by
    intro a ha
    obtain ⟨e, he, rfl⟩ := List.mem_map.mp ha
    exact h.entries e he
  rw [strides32, List.map_append, map_toNat_positive hshort, List.map_singleton,
    toNat_ofNat_of_short h.unitsPerEm]
  rfl

/-! ## How great the sum is -/

theorem length_strides_pos (t : Roster α) : 0 < t.strides.length := by
  rw [strides, List.length_append]
  exact Nat.succ_pos _

theorem length_strides_le (h : t.entries.length ≤ GlyphId.greatest) :
    t.strides.length ≤ greatestCount := by
  have hfilter := List.length_filter_le (0 < ·) (t.entries.map Entry.advance)
  rw [List.length_map] at hfilter
  rw [strides, List.length_append]
  exact Nat.succ_le_succ (hfilter.trans h)

theorem le_of_mem_strides (h : t.HasShortAdvances) {a : Nat} (ha : a ∈ t.strides) :
    a ≤ greatestCount := by
  rcases List.mem_append.mp ha with ha | ha
  · obtain ⟨e, he, rfl⟩ := List.mem_map.mp (List.mem_filter.mp ha).1
    exact h.entries e he
  · rw [List.mem_singleton.mp ha]
    exact h.unitsPerEm

theorem sum_strides_lt (h : t.HasShortAdvances) (hcount : t.entries.length ≤ GlyphId.greatest) :
    t.strides.sum < UInt32.size :=
  calc
    t.strides.sum ≤ t.strides.length * greatestCount :=
      List.sum_le_card_nsmul _ _ fun _ => le_of_mem_strides h
    _ ≤ greatestCount * greatestCount := Nat.mul_le_mul_right _ (length_strides_le hcount)
    _ < UInt32.size := by decide

/-! ## What is taken -/

/-- The mean is taken without fail, and comes to the floor of the exact mean, as far as 16 bits
reach. -/
structure Averages (t : Roster α) : Prop where
  sum_lt : t.strides.sum < UInt32.size
  divisor : UInt32.ofNat t.strides.length ≠ 0
  taken : ∃ v, t.averageAdvance? = some v ∧ v.toInt = t.averageAdvance
  floor : t.averageAdvance =
    min ⌊(t.strides.sum : ℚ) / t.strides.length⌋₊ greatestUnit.toNat

theorem averages_of_short (h : t.HasShortAdvances)
    (hcount : t.entries.length ≤ GlyphId.greatest) : t.Averages := by
  have hsum := sum_strides_lt h hcount
  have hlength : (UInt32.ofNat t.strides.length).toNat = t.strides.length :=
    toNat_ofNat_of_short (length_strides_le hcount)
  have hdivisor : UInt32.ofNat t.strides.length ≠ 0 := by
    intro hzero
    rw [hzero] at hlength
    exact Nat.ne_of_lt t.length_strides_pos hlength
  have hstrides := toNat_strides32 h
  have hlength32 : t.strides32.length = t.strides.length := by
    rw [← hstrides, List.length_map]
  refine ⟨hsum, hdivisor, ?_, ?_⟩
  · have hvalue : (UInt32.ofNat t.strides.sum).toNat = t.strides.sum :=
      UInt32.toNat_ofNat_of_lt' hsum
    have htaken : Checked.sum t.strides32 = some (UInt32.ofNat t.strides.sum) := by
      rw [Checked.sum_eq_some_iff, hstrides, hvalue]
    rw [averageAdvance?, htaken, Option.bind_eq_bind, Option.bind_some, hlength32,
      Checked.div_eq_some hdivisor]
    refine ⟨_, rfl, ?_⟩
    rw [toInt_capped, UInt32.toNat_div, hvalue, hlength, averageAdvance_eq]
  · rw [averageAdvance_eq, Nat.floor_div_eq_div]

theorem averageAdvance_of_uniform {m : Nat} (h : ∀ a ∈ t.strides, a = m) :
    t.averageAdvance = min m greatestUnit.toNat := by
  have hsum : t.strides.sum = t.strides.length * m := by
    rw [List.eq_replicate_of_mem h, List.sum_replicate, List.length_replicate, smul_eq_mul]
  rw [averageAdvance_eq, hsum, Nat.mul_div_cancel_left _ t.length_strides_pos]

/-! ## Rosters that are compiled -/

section

variable [Coordinate α] {o : RosterOptions} {r : Repertoire}

/-- A glyph that is compiled moves the pen by one em or not at all. -/
theorem advance_of_compile (h : (o.compile r).outcome = .ok t) :
    t.metrics = o.metrics ∧
      ∀ e ∈ t.entries, e.advance = 0 ∨ e.advance = o.metrics.unitsPerEm := by
  obtain ⟨n, entries, hn, hentries, haccept, rfl⟩ := RosterOptions.compile_eq_ok.mp h
  refine ⟨rfl, fun e he => ?_⟩
  obtain ⟨g, -, hentry⟩ := ((compiled_rosterOf hn hentries haccept).mem_entries_iff e).mp he
  obtain ⟨outline, -, rfl⟩ := Glyph.entry_eq_ok.mp hentry
  show (if g.zeroAdvance then 0 else o.metrics.unitsPerEm) = 0 ∨
    (if g.zeroAdvance then 0 else o.metrics.unitsPerEm) = o.metrics.unitsPerEm
  split
  · exact Or.inl rfl
  · exact Or.inr rfl

theorem hasShortAdvances_of_compile (h : (o.compile r).outcome = .ok t)
    (hunits : o.metrics.unitsPerEm ≤ greatestCount) : t.HasShortAdvances := by
  obtain ⟨hmetrics, hadvance⟩ := advance_of_compile h
  refine ⟨hmetrics ▸ hunits, fun e he => ?_⟩
  rcases hadvance e he with hzero | hem
  · rw [hzero]
    exact Nat.zero_le _
  · rw [hem]
    exact hunits

theorem eq_of_mem_strides_of_compile (h : (o.compile r).outcome = .ok t) :
    ∀ a ∈ t.strides, a = o.metrics.unitsPerEm := by
  obtain ⟨hmetrics, hadvance⟩ := advance_of_compile h
  intro a ha
  rcases List.mem_append.mp ha with ha | ha
  · obtain ⟨hmem, hpos⟩ := List.mem_filter.mp ha
    obtain ⟨e, he, rfl⟩ := List.mem_map.mp hmem
    rcases hadvance e he with hzero | hem
    · rw [hzero] at hpos
      cases hpos
    · exact hem
  · rw [List.mem_singleton.mp ha, hmetrics]

/-! ## The mean in the font -/

theorem averageAdvance_of_assemble {n : Naming} {library : FontLibrary} {font : Font}
    (h : (t.assemble n library).outcome = .ok font) :
    font.averageAdvance = t.averageAdvance ∧
      FontFile.signedWordAt? (FontFile.os2 font) 2 = some (t.averageAdvance : Int) := by
  have hfont := (assembled_of_assemble h).averageAdvance
  have hle := t.averageAdvance_le
  have hword : FontFile.wordAt? (FontFile.os2 font) 2 = some t.averageAdvance := by
    rw [← hfont] at hle ⊢
    refine FontFile.wordAt?_eq_some rfl ?_
    unfold greatestUnit at hle
    unfold greatestCount
    omega
  rw [FontFile.signedWordAt?, hword, Option.map_some, if_pos hle]
  exact ⟨hfont, rfl⟩

end

end Roster

/-- The sum that the mean advance is taken from stays in 32 bits, for every roster with no more
entries than a font can have glyphs and with advances of 16 bits; the mean is its floor, as far as
16 bits reach. A roster that is compiled is one of these for every em of 16 bits, and the mean of
its advances is the em itself, however many of its glyphs do not move the pen. A font of any library
stores the mean of its roster. -/
theorem mean_advance {α : Type} [Coordinate α] :
    (∀ (o : RosterOptions) (r : Repertoire) (t : Roster α),
      o.metrics.unitsPerEm ≤ greatestCount → (o.compile r).outcome = .ok t →
        t.Averages ∧ t.averageAdvance = min o.metrics.unitsPerEm greatestUnit.toNat) ∧
    (∀ t : Roster α, t.HasShortAdvances → t.entries.length ≤ GlyphId.greatest → t.Averages) ∧
    ∀ (t : Roster α) (n : Naming) (library : FontLibrary) (font : Font),
      (t.assemble n library).outcome = .ok font →
        font.averageAdvance = t.averageAdvance ∧
          FontFile.signedWordAt? (FontFile.os2 font) 2 = some (t.averageAdvance : Int) := by
  refine ⟨fun o r t hunits h => ⟨?_, ?_⟩, fun t => Roster.averages_of_short,
    fun t n library font => Roster.averageAdvance_of_assemble⟩
  · exact Roster.averages_of_short (Roster.hasShortAdvances_of_compile h hunits)
      (numbered_of_compile h).length_entries_le
  · exact Roster.averageAdvance_of_uniform (Roster.eq_of_mem_strides_of_compile h)

/-- A glyph that moves the pen, and one that does not. -/
def sampleStill : Repertoire where
  glyphs := [Glyph.ofKey "a", { Glyph.ofKey "b" with zeroAdvance := true }]
  distinct := by decide

/-- As many entries as there are ids, all of them as wide as can be. -/
def sampleWide : Roster Int where
  metrics := { unitsPerEm := 65535 }
  entries := List.replicate GlyphId.greatest ⟨"a", "a", 1, none, 65535, []⟩
  ligatures := []
  alternates := []
  rules := []
  unresolved := []

theorem mean_advance_samples :
    (∃ t : Roster Int, ({ metrics := { unitsPerEm := 65535 } : RosterOptions }.compile
        sampleStill).outcome = .ok t ∧ t.Averages ∧ t.averageAdvance = 32767) ∧
    sampleWide.strides.sum = 4294836225 ∧ sampleWide.Averages ∧
    ∃ font, (sampleBehind.assemble default).outcome = .ok font ∧ font.averageAdvance = 1028 := by
  obtain ⟨hcompiled, hshort, hfont⟩ := mean_advance (α := Int)
  refine ⟨?_, ?_, ?_, ?_⟩
  · have hrun : ({ metrics := { unitsPerEm := 65535 } : RosterOptions }.compile sampleStill :
        Report (Roster Int)).outcome.map (fun t => t.entries.map Entry.advance) =
        .ok [65535, 0] := by
      cbv
    obtain ⟨t, ht, -⟩ := map_eq_ok.mp hrun
    exact ⟨t, ht, hcompiled _ _ t (by decide) ht⟩
  · have hstrides : sampleWide.strides = List.replicate GlyphId.greatest 65535 ++ [65535] := by
      rw [Roster.strides, sampleWide, List.map_replicate, List.filter_replicate_of_pos rfl]
    rw [hstrides, List.sum_append_nat, List.sum_replicate_nat, List.sum_singleton]
    rfl
  · refine hshort sampleWide ⟨by decide, fun e he => ?_⟩ ?_
    · rw [List.eq_of_mem_replicate he]
      decide
    · exact Nat.le_of_eq List.length_replicate
  · have hrun : (sampleBehind.assemble default).outcome.map Font.glyphCount = .ok 4 := by
      decide +kernel
    obtain ⟨font, hok, -⟩ := map_eq_ok.mp hrun
    refine ⟨font, hok, (hfont sampleBehind default .standard font hok).1.trans ?_⟩
    rfl

end Gridface
