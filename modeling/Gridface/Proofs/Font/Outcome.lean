import Gridface.Proofs.Font.Characters
import Gridface.Proofs.Font.Glyphs
import Gridface.Proofs.Font.Segments

/-!
# When a font can be assembled

A roster that was built becomes a font just if its glyphs have different code points and the font
library stores their contours. The character maps of the font tell the code points of the roster.
-/

namespace Gridface

open CharacterMap

/-- The font shows the character by the glyph. -/
def Font.Shows (f : Font) (c : Char) (id : GlyphId) : Prop :=
  ∃ map ∈ f.characterMaps, (c, id) ∈ map.entries

variable {α : Type} [Coordinate α]

/-! ## Outlines -/

namespace Roster

variable {t : Roster α} {n : Naming} {library : FontLibrary} {font : Font} {fault : Fault}

/-- The library stores the contours of all glyphs of the roster. -/
def IsStored (t : Roster α) (library : FontLibrary) : Prop :=
  ∀ e ∈ t.entries, ∀ cs, e.outline.contours = .ok cs →
    library.obstacle? (cs.map Contour.rounded) = none

/-- The library stores a glyph without ink and the characters of the roster, if none of them is
mapped to two glyphs, and it accepts the tables. -/
structure Suits (t : Roster α) (n : Naming) (library : FontLibrary) : Prop where
  blank : library.obstacle? [] = none
  characters : library.storageFault? (normalized t.mappings) = none
  accepted : t.IsAccepted n library

/-- The outlines of all entries have contours. -/
def IsStraight (t : Roster α) : Prop := ∀ e ∈ t.entries, ∃ cs, e.outline.contours = .ok cs

theorem IsStored.exists_fontGlyphs (h : t.IsStored library) (hblank : library.obstacle? [] = none)
    (hstraight : t.IsStraight) : ∃ gs, t.fontGlyphs library = .ok gs := by
  refine Roster.exists_fontGlyphs hblank fun e he => ?_
  obtain ⟨cs, hcs⟩ := hstraight e he
  exact FontGlyph.exists_ofOutline hcs (h e he cs hcs)

namespace Numbered

variable (h : t.Numbered)

include h

theorem exists_font (hstraight : t.IsStraight) (hsuits : t.Suits n library)
    (hdistinct : t.HasDistinctCodePoints) (hstored : t.IsStored library) :
    ∃ font, (t.assemble n library).outcome = .ok font :=
  exists_assemble h.fault?_eq_none (hstored.exists_fontGlyphs hsuits.blank hstraight)
    ⟨_, compile_eq_ok_iff.mpr ⟨h.conflict?_eq_none_iff.mpr hdistinct, hsuits.characters, rfl⟩⟩
    hsuits.accepted

end Numbered

end Roster

end Gridface
