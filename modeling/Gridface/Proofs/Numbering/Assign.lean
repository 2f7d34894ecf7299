import Gridface.Proofs.Numbering.Free
import Gridface.Proofs.Numbering.Refusal

/-!
# The numbering of a repertoire

Glyphs that ask for an id have it; the others get the free ids in order, as if all that are asked
for had been struck out beforehand. Numbering fails for the first glyph that is refused what it asks
for, or else for the first glyph that no id is left for.
-/

namespace Gridface.Numbering

/-! ## Handing out the free ids -/

/-- The pool holds the ids in `taken` and the first `k` ids that are free of them. -/
structure Handed (taken : List Nat) (k : Nat) (pool : IdPool) : Prop where
  searched : pool.Searched
  mem_iff : ∀ id, id ∈ pool.holders ↔ id ∈ taken ∨ ∃ j < k, nthFree taken j = id

namespace Handed

variable {taken : List Nat} {k : Nat} {pool : IdPool}

theorem nthFree_not_mem (h : Handed taken k pool) : nthFree taken k ∉ pool.holders := by
  rw [h.mem_iff]
  rintro (hmem | ⟨j, hj, he⟩)
  · exact (isFree_nthFree taken k).2 hmem
  · exact absurd hj (nthFree_injective taken he ▸ Nat.lt_irrefl _)

theorem nthFree_le (h : Handed taken k pool) {id : Nat} (hpos : 0 < id)
    (hnot : id ∉ pool.holders) : nthFree taken k ≤ id := by
  rw [h.mem_iff, not_or] at hnot
  obtain ⟨j, rfl⟩ := exists_nthFree_eq ⟨hpos, hnot.1⟩
  exact nthFree_le_nthFree (Nat.not_lt.mp fun hj => hnot.2 ⟨j, hj, rfl⟩)

/-- As long as there is a free id within bounds, the search finds the lowest one. -/
theorem firstFree_eq (h : Handed taken k pool) (hle : nthFree taken k ≤ GlyphId.greatest) :
    pool.firstFree pool.next = nthFree taken k := by
  have hupper : pool.firstFree pool.next ≤ nthFree taken k := by
    refine Nat.not_lt.mp fun hlt => h.nthFree_not_mem ?_
    exact h.searched.mem_of_lt (isFree_nthFree taken k).1 hlt
  refine Nat.le_antisymm hupper (h.nthFree_le h.searched.advance.next_pos ?_)
  exact IdPool.firstFree_not_mem (Nat.le_trans hupper hle)

theorem lt_firstFree (h : Handed taken k pool) (hlt : GlyphId.greatest < nthFree taken k) :
    GlyphId.greatest < pool.firstFree pool.next := by
  refine Nat.not_le.mp fun hle => ?_
  have hbelow := h.nthFree_le h.searched.advance.next_pos (IdPool.firstFree_not_mem hle)
  exact absurd hlt (Nat.not_lt.mpr (Nat.le_trans hbelow hle))

theorem give (h : Handed taken k pool) (key : String) :
    Handed taken (k + 1)
      ({ pool with next := pool.firstFree pool.next }.give key (nthFree taken k)) where
  searched := h.searched.advance.give
  mem_iff := by
    intro id
    have hold : id ∈ ({ pool with next := pool.firstFree pool.next } : IdPool).holders ↔
        id ∈ taken ∨ ∃ j < k, nthFree taken j = id := h.mem_iff id
    rw [IdPool.mem_give, hold]
    constructor
    · rintro (rfl | hmem | ⟨j, hj, rfl⟩)
      · exact Or.inr ⟨k, Nat.lt_succ_self k, rfl⟩
      · exact Or.inl hmem
      · exact Or.inr ⟨j, Nat.lt_succ_of_lt hj, rfl⟩
    · rintro (hmem | ⟨j, hj, rfl⟩)
      · exact Or.inr (Or.inl hmem)
      · rcases Nat.lt_succ_iff_lt_or_eq.mp hj with hlt | rfl
        · exact Or.inr (Or.inr ⟨j, hlt, rfl⟩)
        · exact Or.inl rfl

end Handed

theorem Reserved.handed {gs : List Glyph} {pool : IdPool} (h : Reserved gs pool) :
    Handed (asked gs) 0 pool where
  searched := by
    refine ⟨?_, ?_, fun id hpos hlt => ?_⟩
    · rw [h.next_eq]
      exact Nat.one_pos
    · rw [h.next_eq]
      decide
    · rw [h.next_eq] at hlt
      exact absurd hpos (Nat.not_lt.mpr (Nat.le_of_lt_succ hlt))
  mem_iff := by
    intro id
    simp [h.mem_iff]

/-! ## The ids in closed form -/

/-- The glyphs with the ids they ask for, and the others with the free ids from the `k`-th on. -/
noncomputable def numbered (taken : List Nat) (k : Nat) : List Glyph → List (String × GlyphId)
  | [] => []
  | g :: gs =>
    match g.index with
    | some index => (g.key, index) :: numbered taken k gs
    | none => (g.key, nthFree taken k) :: numbered taken (k + 1) gs

/-- How many ids are left for the glyphs that ask for none. -/
def room (taken : List Nat) : Nat := GlyphId.greatest - taken.length

/-- The glyphs are numbered in closed form, unless there is one that no id is left for. -/
theorem number_eq {taken : List Nat} (hnodup : taken.Nodup)
    (hrange : ∀ id ∈ taken, 0 < id ∧ id ≤ GlyphId.greatest) (gs : List Glyph) {k : Nat}
    {pool : IdPool} (h : Handed taken k pool) (hk : k ≤ room taken) :
    number pool gs =
      match (unasked gs)[room taken - k]? with
      | none => .ok (numbered taken k gs)
      | some g => .error (.indexOutOfRange g.key (GlyphId.greatest + 1)) := by
  induction gs generalizing k pool with
  | nil => rfl
  | cons g gs ih =>
      cases hg : g.index with
      | some index =>
          have hunasked : unasked (g :: gs) = unasked gs := by simp [unasked, hg]
          rw [hunasked]
          simp only [number, numbered, hg, ih h hk]
          cases (unasked gs)[room taken - k]? <;> rfl
      | none =>
          have hunasked : unasked (g :: gs) = g :: unasked gs := by simp [unasked, hg]
          rw [hunasked]
          simp only [number, numbered, hg]
          rcases Nat.lt_or_ge k (room taken) with hlt | hge
          · have hle : nthFree taken k ≤ GlyphId.greatest :=
              (nthFree_le_iff hnodup hrange k).mpr hlt
            have hfirst := h.firstFree_eq hle
            rw [h.searched.allocate_of_le (hfirst ▸ hle), hfirst]
            have hsub : room taken - k = room taken - (k + 1) + 1 := by omega
            have hrest := ih (h.give g.key) hlt
            rw [hfirst] at hrest
            rw [hsub, List.getElem?_cons_succ]
            show (number _ gs >>= fun ids => .ok ((g.key, nthFree taken k) :: ids)) = _
            rw [hrest]
            cases (unasked gs)[room taken - (k + 1)]? <;> rfl
          · have hlt : GlyphId.greatest < nthFree taken k :=
              Nat.not_le.mp fun hle => Nat.not_lt.mpr hge ((nthFree_le_iff hnodup hrange k).mp hle)
            rw [h.searched.allocate_of_lt (h.lt_firstFree hlt), Nat.sub_eq_zero_of_le hge]
            rfl

/-- A glyph has the id it asks for, and the `j`-th that asks for none the `j`-th free id. -/
theorem mem_numbered_iff {taken : List Nat} {gs : List Glyph} {k : Nat} {key : String}
    {id : GlyphId} :
    (key, id) ∈ numbered taken k gs ↔
      (∃ g ∈ gs, g.index = some id ∧ g.key = key) ∨
      ∃ j g, (unasked gs)[j]? = some g ∧ g.key = key ∧ nthFree taken (k + j) = id := by
  induction gs generalizing k with
  | nil => simp [numbered, unasked]
  | cons g gs ih =>
      cases hg : g.index with
      | some index =>
          have hunasked : unasked (g :: gs) = unasked gs := by simp [unasked, hg]
          simp only [numbered, hg, List.mem_cons, ih, hunasked, Prod.mk.injEq, exists_eq_or_imp,
            Option.some.injEq, or_assoc]
          exact or_congr ⟨fun ⟨hk, hi⟩ => ⟨hi.symm, hk.symm⟩, fun ⟨hi, hk⟩ => ⟨hk.symm, hi.symm⟩⟩
            Iff.rfl
      | none =>
          have hunasked : unasked (g :: gs) = g :: unasked gs := by simp [unasked, hg]
          simp only [numbered, hg, List.mem_cons, ih, hunasked, Prod.mk.injEq, exists_eq_or_imp,
            reduceCtorEq, false_and, false_or]
          constructor
          · rintro (⟨rfl, rfl⟩ | hasked | ⟨j, g', hj, rfl, rfl⟩)
            · exact Or.inr ⟨0, g, rfl, rfl, rfl⟩
            · exact Or.inl hasked
            · exact Or.inr ⟨j + 1, g', hj, rfl, by rw [Nat.add_right_comm, Nat.add_assoc]⟩
          · rintro (hasked | ⟨j, g', hj, rfl, rfl⟩)
            · exact Or.inr (Or.inl hasked)
            · cases j with
              | zero =>
                  cases hj
                  exact Or.inl ⟨rfl, rfl⟩
              | succ j =>
                  exact Or.inr (Or.inr ⟨j, g', hj, rfl, by rw [Nat.add_right_comm, Nat.add_assoc]⟩)

theorem keys_numbered (taken : List Nat) (k : Nat) (gs : List Glyph) :
    (numbered taken k gs).map Prod.fst = gs.map Glyph.key := by
  induction gs generalizing k with
  | nil => rfl
  | cons g gs ih =>
      cases hg : g.index with
      | some index => simp [numbered, hg, ih]
      | none => simp [numbered, hg, ih]

theorem ids_numbered_nil {gs : List Glyph} (h : asked gs = []) (k : Nat) :
    (numbered [] k gs).map Prod.snd = List.range' (k + 1) gs.length := by
  induction gs generalizing k with
  | nil => rfl
  | cons g gs ih =>
      have hnone : g.index = none ∧ asked gs = [] := by simpa [asked] using h
      obtain ⟨hg, hgs⟩ := hnone
      simp [numbered, hg, ih hgs, nthFree_nil, List.range'_succ]

/-- No two glyphs have the same id: what is asked for is never handed out as a free id. -/
theorem nodup_numbered {taken : List Nat} {gs : List Glyph} (k : Nat) (hnodup : (asked gs).Nodup)
    (hsub : ∀ id ∈ asked gs, id ∈ taken) : ((numbered taken k gs).map Prod.snd).Nodup := by
  induction gs generalizing k with
  | nil => exact List.nodup_nil
  | cons g gs ih =>
      cases hg : g.index with
      | some index =>
          have hasked : asked (g :: gs) = index :: asked gs := by simp [asked, hg]
          rw [hasked] at hnodup hsub
          obtain ⟨hnew, hnodup⟩ := List.nodup_cons.mp hnodup
          simp only [numbered, hg, List.map_cons, List.nodup_cons]
          refine ⟨fun hmem => ?_, ih k hnodup fun id hid => hsub id (List.mem_cons_of_mem _ hid)⟩
          obtain ⟨⟨key, id⟩, hpair, rfl⟩ := List.mem_map.mp hmem
          rcases mem_numbered_iff.mp hpair with ⟨g', hg', hindex, -⟩ | ⟨j, g', -, -, he⟩
          · exact hnew (mem_asked_iff.mpr ⟨g', hg', hindex⟩)
          · exact (isFree_nthFree taken (k + j)).2 (he ▸ hsub _ List.mem_cons_self)
      | none =>
          have hasked : asked (g :: gs) = asked gs := by simp [asked, hg]
          rw [hasked] at hnodup hsub
          simp only [numbered, hg, List.map_cons, List.nodup_cons]
          refine ⟨fun hmem => ?_, ih (k + 1) hnodup hsub⟩
          obtain ⟨⟨key, id⟩, hpair, he⟩ := List.mem_map.mp hmem
          rcases mem_numbered_iff.mp hpair with ⟨g', hg', hindex, -⟩ | ⟨j, g', -, -, he'⟩
          · have hfree := (isFree_nthFree taken k).2
            exact hfree (he ▸ hsub _ (mem_asked_iff.mpr ⟨g', hg', hindex⟩))
          · have hsame := nthFree_injective taken (he'.trans he)
            omega

end Gridface.Numbering
