import Gridface.Proofs.Cartouche.Synthesis
import Gridface.Proofs.Numbering.Outcome

/-!
# The numbering of a repertoire that has grown

Glyphs that come behind all others and ask for no id leave the ids of the others as they are. The
only thing that can go wrong is that there are not enough ids.
-/

namespace Gridface

namespace Numbering

variable {r r' : Repertoire} {n n' : Numbering} {new : List Glyph}

/-! ## New glyphs behind the others -/

theorem asked_append_of_unasked (gs : List Glyph) (hnew : ∀ g ∈ new, g.index = none) :
    asked (gs ++ new) = asked gs := by
  have hnone : new.filterMap Glyph.index = [] := List.filterMap_eq_nil_iff.mpr hnew
  rw [asked, List.filterMap_append, hnone, List.append_nil]
  rfl

theorem unasked_append_of_unasked (gs : List Glyph) (hnew : ∀ g ∈ new, g.index = none) :
    unasked (gs ++ new) = unasked gs ++ new := by
  have hall : new.filter (·.index.isNone) = new :=
    List.filter_eq_self.mpr fun g hg => by rw [hnew g hg]; rfl
  rw [unasked, List.filter_append, hall]
  rfl

theorem numbered_append (taken : List Nat) (k : Nat) (gs new : List Glyph) :
    numbered taken k (gs ++ new) =
      numbered taken k gs ++ numbered taken (k + (unasked gs).length) new := by
  induction gs generalizing k with
  | nil => rfl
  | cons g gs ih =>
      cases hg : g.index with
      | some index => simp [numbered, unasked, hg, ih]
      | none => simp [numbered, unasked, hg, ih, Nat.add_assoc, Nat.add_comm 1]

theorem granted_append_of_unasked {gs : List Glyph} (hnew : ∀ g ∈ new, g.index = none)
    (h : Granted gs) : Granted (gs ++ new) := by
  rw [granted_iff] at h ⊢
  rwa [asked_append_of_unasked gs hnew]

/-- There is room for the glyphs that ask for no id, and for as many more as ids are left. -/
theorem room_eq (hsize : r.size ≤ GlyphId.greatest) :
    room (asked r.glyphs) = (unasked r.glyphs).length + (GlyphId.greatest - r.size) := by
  have hlength := length_asked_add_length_unasked r.glyphs
  unfold room Repertoire.size at *
  omega

/-- With new glyphs behind the others that ask for no id the numbering goes on where it ended, until
no id is left. -/
theorem assign_of_glyphs_append (h : assign r = .ok n) (hglyphs : r'.glyphs = r.glyphs ++ new)
    (hnew : ∀ g ∈ new, g.index = none) :
    assign r' =
      match new[GlyphId.greatest - r.size]? with
      | none => .ok ⟨n.ids ++ numbered (asked r.glyphs) (unasked r.glyphs).length new⟩
      | some g => .error (.indexOutOfRange g.key (GlyphId.greatest + 1)) := by
  obtain ⟨hgranted, hsize, rfl⟩ := assign_eq_ok.mp h
  have hgranted' : Granted r'.glyphs := hglyphs ▸ granted_append_of_unasked hnew hgranted
  have hassign := assign_of_granted hgranted'
  rw [hglyphs, asked_append_of_unasked r.glyphs hnew, unasked_append_of_unasked r.glyphs hnew,
    room_eq hsize, List.getElem?_append_right (Nat.le_add_right _ _), Nat.add_sub_cancel_left,
    numbered_append, Nat.zero_add] at hassign
  exact hassign

/-- Every key has an id in both numberings, and it is the same. -/
def SameIds (keys : List String) (n n' : Numbering) : Prop :=
  ∀ key ∈ keys, ∃ id, n.find? key = some id ∧ n'.find? key = some id

theorem sameIds_append (n : Numbering) (more : List (String × GlyphId)) :
    SameIds (n.ids.map Prod.fst) n ⟨n.ids ++ more⟩ := by
  intro key hkey
  obtain ⟨id, hid⟩ : ∃ id, n.ids.lookup key = some id := by
    rw [← Option.isSome_iff_exists, Option.isSome_iff_ne_none, Ne, List.lookup_eq_none_iff]
    intro hnone
    obtain ⟨p, hp, rfl⟩ := List.mem_map.mp hkey
    simpa using hnone p hp
  refine ⟨id, hid, ?_⟩
  rw [find?, List.lookup_append, hid]
  rfl

theorem sameIds_of_glyphs_append (h : assign r = .ok n) (h' : assign r' = .ok n')
    (hglyphs : r'.glyphs = r.glyphs ++ new) (hnew : ∀ g ∈ new, g.index = none) :
    SameIds r.keys n n' := by
  rw [assign_of_glyphs_append h hglyphs hnew] at h'
  rw [← (numbers_of_assign h).keys_eq]
  split at h'
  · cases h'
    exact sameIds_append n _
  · cases h'

/-! ## Synthesis -/

theorem reserveAsked_map {f : Glyph → Glyph} (hkey : ∀ g, (f g).key = g.key)
    (hindex : ∀ g, (f g).index = g.index) (pool : IdPool) (gs : List Glyph) :
    reserveAsked pool (gs.map f) = reserveAsked pool gs := by
  induction gs generalizing pool with
  | nil => rfl
  | cons g gs ih => simp only [List.map_cons, reserveAsked, hkey, hindex, ih]

theorem number_map {f : Glyph → Glyph} (hkey : ∀ g, (f g).key = g.key)
    (hindex : ∀ g, (f g).index = g.index) (pool : IdPool) (gs : List Glyph) :
    number pool (gs.map f) = number pool gs := by
  induction gs generalizing pool with
  | nil => rfl
  | cons g gs ih => simp only [List.map_cons, number, hkey, hindex, ih]

/-- What is replaced by a glyph makes no difference to its id. -/
theorem assign_spelled (s : CartoucheStyle) (r : Repertoire) : assign (r.spelled s) = assign r := by
  have hkey : ∀ g, (s.spelled g).key = g.key := fun _ => rfl
  have hindex : ∀ g, (s.spelled g).index = g.index := fun _ => rfl
  simp only [assign, Repertoire.spelled, Repertoire.mapGlyphs, reserveAsked_map hkey hindex,
    number_map hkey hindex]

/-- Forms whose names are no keys come behind the other glyphs and ask for no id. -/
theorem exists_forms_behind {s : CartoucheStyle} (hs : (r.synthesize s).outcome = .ok r')
    (hfresh : ∀ w ∈ r.glyphs, s.wantsForm w = true → s.formName w.name ∉ r.keys) :
    ∃ new, r'.glyphs = (r.spelled s).glyphs ++ new ∧ ∀ g ∈ new, g.index = none := by
  obtain ⟨forms, hforms, rfl⟩ := Repertoire.synthesize_eq_ok.mp hs
  refine ⟨_, Repertoire.glyphs_foldl_insert_of_not_mem fun f hf => ?_, fun f hf => ?_⟩
  · obtain ⟨w, hw, hwants, hkey⟩ :=
      (Repertoire.mem_keys_forms_iff hforms).mp (List.mem_map_of_mem hf)
    rw [Repertoire.keys_spelled, ← hkey]
    exact hfresh w hw hwants
  · have hmem := Repertoire.mem_of_mem_ofList hf
    obtain ⟨w, -, -, hform⟩ := (Repertoire.mem_forms_iff hforms).mp hmem
    obtain ⟨bitmap, framed, -, -, rfl⟩ := CartoucheStyle.form_eq_ok.mp hform
    rfl

/-! ## Ids that stay -/

/-- New glyphs that are filed behind the others and ask for no id leave all ids as they are, or
there are more glyphs than ids. So do the forms that synthesis adds, as long as none of them is
filed under the key of a glyph. -/
theorem ids_kept (h : assign r = .ok n) :
    (∀ new : List Glyph, (new.map Glyph.key).Nodup → (∀ g ∈ new, g.key ∉ r.keys) →
      (∀ g ∈ new, g.index = none) →
      (new.foldl Repertoire.insert r).glyphs = r.glyphs ++ new ∧
      if r.size + new.length ≤ GlyphId.greatest then
        ∃ n', assign (new.foldl Repertoire.insert r) = .ok n' ∧ SameIds r.keys n n'
      else
        ∃ g, new[GlyphId.greatest - r.size]? = some g ∧
          assign (new.foldl Repertoire.insert r) =
            .error (.indexOutOfRange g.key (GlyphId.greatest + 1))) ∧
    ∀ s r' n', (r.synthesize s).outcome = .ok r' →
      (∀ w ∈ r.glyphs, s.wantsForm w = true → s.formName w.name ∉ r.keys) →
      assign r' = .ok n' → SameIds r.keys n n' := by
  constructor
  · intro new hnodup hfresh hnew
    have hglyphs : (new.foldl Repertoire.insert r).glyphs = r.glyphs ++ new := by
      rw [Repertoire.glyphs_foldl_insert_of_not_mem hfresh, Repertoire.glyphs_ofList hnodup]
    refine ⟨hglyphs, ?_⟩
    have hassign := assign_of_glyphs_append h hglyphs hnew
    have hsize := (assign_eq_ok.mp h).2.1
    split
    · rename_i hroom
      rw [List.getElem?_eq_none (by omega)] at hassign
      exact ⟨_, hassign, sameIds_of_glyphs_append h hassign hglyphs hnew⟩
    · rename_i hroom
      have hlast : GlyphId.greatest - r.size < new.length := by omega
      rw [List.getElem?_eq_getElem hlast] at hassign
      exact ⟨_, List.getElem?_eq_getElem hlast, hassign⟩
  · intro s r' n' hs hfresh h'
    obtain ⟨new, hglyphs, hnew⟩ := exists_forms_behind hs hfresh
    rw [← Repertoire.keys_spelled s r]
    exact sameIds_of_glyphs_append ((assign_spelled s r).trans h) h' hglyphs hnew

/-- A word that asks for no id, and a glyph that asks for an id beyond the next one. -/
def samplePinned : Repertoire where
  glyphs := [
    { Glyph.ofKey "tp.a" with bitmap := some ⟨1, 1, 0, 0, [true], List.length_singleton⟩ },
    { Glyph.ofKey "b" with index := some 3 }]
  distinct := by decide

theorem ids_kept_samplePinned :
    assign samplePinned = .ok ⟨[("tp.a", 1), ("b", 3)]⟩ ∧
      ([Glyph.ofKey "c"].foldl Repertoire.insert samplePinned).glyphs =
        samplePinned.glyphs ++ [.ofKey "c"] ∧
      ∃ r' n', (samplePinned.synthesize {}).outcome = .ok r' ∧ assign r' = .ok n' ∧
        n'.ids = [("tp.a", 1), ("b", 3), ("tp.a.cart", 2)] ∧
        SameIds samplePinned.keys ⟨[("tp.a", 1), ("b", 3)]⟩ n' := by
  have hrun : assign samplePinned = .ok ⟨[("tp.a", 1), ("b", 3)]⟩ := by cbv
  obtain ⟨hfiled, hformed⟩ := ids_kept hrun
  refine ⟨hrun, (hfiled [.ofKey "c"] (by decide) (by decide) (by decide)).1, ?_⟩
  have hforms : ((samplePinned.synthesize {}).outcome >>= assign).toOption.map ids =
      some [("tp.a", 1), ("b", 3), ("tp.a.cart", 2)] := by
    decide +kernel
  cases hr' : (samplePinned.synthesize {}).outcome with
  | error e =>
      rw [hr'] at hforms
      cases hforms
  | ok r' =>
      rw [hr'] at hforms
      change (assign r').toOption.map ids = _ at hforms
      cases hn' : assign r' with
      | error e =>
          rw [hn'] at hforms
          cases hforms
      | ok n' =>
          rw [hn'] at hforms
          exact ⟨r', n', rfl, hn', Option.some.inj hforms,
            hformed {} r' n' hr' (by decide +kernel) hn'⟩

end Numbering

end Gridface
