import Gridface.Proofs.Numbering.Assign
import Gridface.Proofs.Repertoire.Lookup

/-!
# When numbering succeeds, and with what

A repertoire can be numbered when the ids asked for are within bounds and distinct and there are not
more glyphs than ids. Otherwise the fault is the first refusal, or else that of the first glyph that
no id is left for.
-/

namespace Gridface.Numbering

/-! ## Reserving what is asked for -/

theorem Reserved.reserve_eq_ok {before : List Glyph} {pool : IdPool} (h : Reserved before pool)
    {g : Glyph} {index : Nat} (hg : g.index = some index) (hgranted : ∀ e, ¬Refused before g e) :
    pool.reserve g.key index = .ok (index, pool.give g.key index) := by
  obtain ⟨⟨hpos, hle⟩, hnew⟩ := not_refused_iff.mp hgranted index hg
  exact IdPool.reserve_eq_ok.mpr ⟨hpos, hle, fun hmem => hnew (h.mem_iff.mp hmem), rfl, rfl⟩

/-- Glyphs that get what they ask for are passed over one after the other. -/
theorem Reserved.reserveAsked_append {before : List Glyph} {pool : IdPool}
    (h : Reserved before pool) (gs rest : List Glyph) (hgranted : Granted (before ++ gs)) :
    ∃ pool', Reserved (before ++ gs) pool' ∧
      reserveAsked pool (gs ++ rest) = reserveAsked pool' rest := by
  induction gs generalizing before pool with
  | nil => exact ⟨pool, by rwa [List.append_nil], rfl⟩
  | cons g gs ih =>
      have hfirst : ∀ e, ¬Refused before g e := hgranted before g gs rfl
      rw [List.append_cons] at hgranted ⊢
      rw [List.cons_append]
      cases hg : g.index with
      | none =>
          simp only [reserveAsked, hg]
          exact ih (h.skip hg) hgranted
      | some index =>
          simp only [reserveAsked, hg, h.reserve_eq_ok hg hfirst]
          have hnew := ((not_refused_iff.mp hfirst) index hg).2
          exact ih (h.give hg fun hmem => hnew (h.mem_iff.mp hmem)) hgranted

theorem reserveAsked_of_granted {gs : List Glyph} (h : Granted gs) :
    ∃ pool, Reserved gs pool ∧ reserveAsked {} gs = .ok pool := by
  obtain ⟨pool, hpool, hrun⟩ := reserved_nil.reserveAsked_append gs [] h
  rw [List.append_nil] at hrun
  exact ⟨pool, hpool, hrun⟩

theorem reserveAsked_of_firstRefusal {gs : List Glyph} {e : Fault} (h : FirstRefusal gs e) :
    reserveAsked {} gs = .error e := by
  obtain ⟨before, g, after, rfl, hbefore, hrefused⟩ := h
  obtain ⟨pool, hpool, hrun⟩ := reserved_nil.reserveAsked_append before (g :: after) hbefore
  obtain ⟨index, hg⟩ : ∃ index, g.index = some index := by
    cases hrefused with
    | reserved hindex => exact ⟨_, hindex⟩
    | outOfRange hindex _ => exact ⟨_, hindex⟩
    | duplicate hindex _ _ _ _ => exact ⟨_, hindex⟩
  rw [hrun]
  simp only [reserveAsked, hg, (hpool.reserve_eq_error hg).mpr hrefused]
  rfl

theorem granted_or_firstRefusal (gs : List Glyph) : Granted gs ∨ ∃ e, FirstRefusal gs e := by
  induction gs using List.reverseRecOn with
  | nil => exact Or.inl granted_nil
  | append_singleton gs g ih =>
      rcases ih with hgranted | ⟨e, before, g', after, rfl, hbefore, hrefused⟩
      · by_cases hg : ∀ e, ¬Refused gs g e
        · exact Or.inl (granted_concat.mpr ⟨hgranted, hg⟩)
        · obtain ⟨e, hrefused⟩ := not_forall_not.mp hg
          exact Or.inr ⟨e, gs, g, [], rfl, hgranted, hrefused⟩
      · exact Or.inr ⟨e, before, g', after ++ [g], by simp, hbefore, hrefused⟩

theorem FirstRefusal.not_granted {gs : List Glyph} {e : Fault} (h : FirstRefusal gs e) :
    ¬Granted gs := by
  obtain ⟨before, g, after, hsplit, -, hrefused⟩ := h
  exact fun hgranted => hgranted before g after hsplit e hrefused

/-! ## The outcome -/

variable {r : Repertoire}

theorem assign_of_firstRefusal {e : Fault} (h : FirstRefusal r.glyphs e) : assign r = .error e := by
  simp only [assign, reserveAsked_of_firstRefusal h]
  rfl

/-- When all get what they ask for, numbering fails only for want of ids. -/
theorem assign_of_granted (h : Granted r.glyphs) :
    assign r =
      match (unasked r.glyphs)[room (asked r.glyphs)]? with
      | none => .ok ⟨numbered (asked r.glyphs) 0 r.glyphs⟩
      | some g => .error (.indexOutOfRange g.key (GlyphId.greatest + 1)) := by
  obtain ⟨hrange, hnodup⟩ := granted_iff.mp h
  obtain ⟨pool, hpool, hrun⟩ := reserveAsked_of_granted h
  have hnumber := number_eq hnodup hrange r.glyphs hpool.handed (Nat.zero_le _)
  rw [Nat.sub_zero] at hnumber
  simp only [assign, hrun, bind, Except.bind, hnumber]
  cases (unasked r.glyphs)[room (asked r.glyphs)]? <;> rfl

theorem length_asked_add_length_unasked (gs : List Glyph) :
    (asked gs).length + (unasked gs).length = gs.length := by
  induction gs with
  | nil => rfl
  | cons g gs ih =>
      cases hg : g.index with
      | none => simp [asked, unasked, hg, ← ih, Nat.add_assoc]
      | some index => simp [asked, unasked, hg, ← ih, Nat.add_right_comm]

theorem length_asked_le {gs : List Glyph} (h : Granted gs) :
    (asked gs).length ≤ GlyphId.greatest := by
  obtain ⟨hrange, hnodup⟩ := granted_iff.mp h
  have hsub : asked gs ⊆ List.range' 1 GlyphId.greatest := by
    intro id hid
    obtain ⟨hpos, hle⟩ := hrange id hid
    exact List.mem_range'_1.mpr ⟨hpos, by omega⟩
  have hlength := (List.subperm_of_subset hnodup hsub).length_le
  rwa [List.length_range'] at hlength

theorem room_lt_iff {gs : List Glyph} (h : Granted gs) :
    room (asked gs) < (unasked gs).length ↔ GlyphId.greatest < gs.length := by
  have hle := length_asked_le h
  have hlength := length_asked_add_length_unasked gs
  unfold room
  omega

/-- The fault that numbering the repertoire ends in. -/
theorem assign_eq_error {e : Fault} :
    assign r = .error e ↔
      FirstRefusal r.glyphs e ∨ Granted r.glyphs ∧
        ∃ g, (unasked r.glyphs)[room (asked r.glyphs)]? = some g ∧
          e = .indexOutOfRange g.key (GlyphId.greatest + 1) := by
  rcases granted_or_firstRefusal r.glyphs with hgranted | ⟨e', hrefusal⟩
  · have hnone : ¬FirstRefusal r.glyphs e := fun h => h.not_granted hgranted
    rw [assign_of_granted hgranted]
    cases (unasked r.glyphs)[room (asked r.glyphs)]? with
    | none => simp [hnone]
    | some g => simp [hnone, hgranted, eq_comm]
  · constructor
    · intro h
      cases (assign_of_firstRefusal hrefusal).symm.trans h
      exact Or.inl hrefusal
    · rintro (h | ⟨hgranted, -⟩)
      · exact assign_of_firstRefusal h
      · exact absurd hgranted hrefusal.not_granted

theorem assign_eq_ok {n : Numbering} :
    assign r = .ok n ↔
      Granted r.glyphs ∧ r.size ≤ GlyphId.greatest ∧
        n = ⟨numbered (asked r.glyphs) 0 r.glyphs⟩ := by
  rcases granted_or_firstRefusal r.glyphs with hgranted | ⟨e, hrefusal⟩
  · have hroom : GlyphId.greatest < r.size ↔ _ := (room_lt_iff hgranted).symm
    rw [assign_of_granted hgranted, ← Nat.not_lt, hroom, Nat.not_lt]
    cases hlast : (unasked r.glyphs)[room (asked r.glyphs)]? with
    | none => simp [hgranted, List.getElem?_eq_none_iff.mp hlast, eq_comm]
    | some g =>
        have hlt := (List.getElem?_eq_some_iff.mp hlast).1
        simp [Nat.not_le.mpr hlt]
  · simp [assign_of_firstRefusal hrefusal, hrefusal.not_granted]

/-! ## The numbering -/

theorem find?_eq_some_iff {n : Numbering} (h : (n.ids.map Prod.fst).Nodup) {key : String}
    {id : GlyphId} : n.find? key = some id ↔ (key, id) ∈ n.ids :=
  lookup_eq_some_iff_mem h

/-- What the numbering of a repertoire has to be. -/
structure Numbers (n : Numbering) (r : Repertoire) : Prop where
  keys_eq : n.ids.map Prod.fst = r.keys
  find?_asked : ∀ g ∈ r.glyphs, ∀ index, g.index = some index → n.find? g.key = some index
  find?_unasked : ∀ k g, (unasked r.glyphs)[k]? = some g →
    n.find? g.key = some (nthFree (asked r.glyphs) k)
  nodup : (n.ids.map Prod.snd).Nodup
  range : ∀ id ∈ n.ids.map Prod.snd, 0 < id ∧ id ≤ GlyphId.greatest
  /-- When no glyph asks for an id they are counted from 1 on. -/
  counted : asked r.glyphs = [] → n.ids.map Prod.snd = List.range' 1 r.size

theorem numbers_of_assign {n : Numbering} (h : assign r = .ok n) : n.Numbers r := by
  obtain ⟨hgranted, hsize, rfl⟩ := assign_eq_ok.mp h
  obtain ⟨hrange, hnodup⟩ := granted_iff.mp hgranted
  have hkeys := keys_numbered (asked r.glyphs) 0 r.glyphs
  have hdistinct : ((numbered (asked r.glyphs) 0 r.glyphs).map Prod.fst).Nodup :=
    hkeys ▸ r.distinct
  constructor
  case keys_eq => exact hkeys
  case find?_asked =>
    intro g hg index hindex
    exact (find?_eq_some_iff hdistinct).mpr (mem_numbered_iff.mpr (Or.inl ⟨g, hg, hindex, rfl⟩))
  case find?_unasked =>
    intro k g hg
    have hk : nthFree (asked r.glyphs) (0 + k) = nthFree (asked r.glyphs) k := by rw [Nat.zero_add]
    exact (find?_eq_some_iff hdistinct).mpr (mem_numbered_iff.mpr (Or.inr ⟨k, g, hg, rfl, hk⟩))
  case nodup => exact nodup_numbered 0 hnodup fun _ hid => hid
  case range =>
    intro id hid
    obtain ⟨⟨key, id⟩, hpair, rfl⟩ := List.mem_map.mp hid
    rcases mem_numbered_iff.mp hpair with ⟨g, hg, hindex, -⟩ | ⟨k, g, hg, -, rfl⟩
    · exact hrange id (mem_asked_iff.mpr ⟨g, hg, hindex⟩)
    · refine ⟨(isFree_nthFree _ _).1, (nthFree_le_iff hnodup hrange _).mpr ?_⟩
      have hk := (List.getElem?_eq_some_iff.mp hg).1
      have hroom := (room_lt_iff hgranted).not.mpr (Nat.not_lt.mpr hsize)
      unfold room at hroom
      omega
  case counted =>
    intro hnone
    rw [hnone]
    exact ids_numbered_nil hnone 0

/-- Numbering succeeds just when the ids asked for can be given and the glyphs are not too many. -/
theorem assign_outcome (r : Repertoire) :
    ((∃ n, assign r = .ok n) ↔
      (∀ id ∈ asked r.glyphs, 0 < id ∧ id ≤ GlyphId.greatest) ∧ (asked r.glyphs).Nodup ∧
        r.size ≤ GlyphId.greatest) ∧
    (∀ n, assign r = .ok n → n.Numbers r) ∧
    ∀ e, assign r = .error e ↔
      FirstRefusal r.glyphs e ∨ Granted r.glyphs ∧
        ∃ g, (unasked r.glyphs)[GlyphId.greatest - (asked r.glyphs).length]? = some g ∧
          e = .indexOutOfRange g.key (GlyphId.greatest + 1) := by
  refine ⟨?_, fun n => numbers_of_assign, fun e => assign_eq_error⟩
  rw [← and_assoc, ← granted_iff]
  constructor
  · rintro ⟨n, hn⟩
    obtain ⟨hgranted, hsize, -⟩ := assign_eq_ok.mp hn
    exact ⟨hgranted, hsize⟩
  · rintro ⟨hgranted, hsize⟩
    exact ⟨_, assign_eq_ok.mpr ⟨hgranted, hsize, rfl⟩⟩

/-- Two glyphs ask for no id and a third one asks for 2. -/
def sampleRepertoire : Repertoire where
  glyphs := [.ofKey "a", .ofKey "b", { Glyph.ofKey "c" with index := some 2 }]
  distinct := by decide

theorem assign_sampleRepertoire :
    assign sampleRepertoire = .ok ⟨[("a", 1), ("b", 3), ("c", 2)]⟩ ∧
      Numbers ⟨[("a", 1), ("b", 3), ("c", 2)]⟩ sampleRepertoire ∧
      ∃ n, assign sampleRepertoire = .ok n := by
  have hrun : assign sampleRepertoire = .ok ⟨[("a", 1), ("b", 3), ("c", 2)]⟩ := by cbv
  obtain ⟨hiff, hnumbers, -⟩ := assign_outcome sampleRepertoire
  exact ⟨hrun, hnumbers _ hrun, hiff.mpr (by decide)⟩

end Gridface.Numbering
