import Gridface.Numbering

/-!
# The pool of ids

What the two ways of taking an id from a pool do: an id that is asked for is given or refused for a
stated reason, and an id that is not asked for is the lowest that nobody holds.
-/

namespace Gridface.IdPool

variable {pool pool' : IdPool} {key : String} {index : Nat}

/-! ## Asking for an id -/

/-- The pool in which `key` holds `index` as well. -/
def give (pool : IdPool) (key : String) (index : Nat) : IdPool :=
  { pool with holders := pool.holders.insert index key }

theorem mem_give {id : GlyphId} :
    id ∈ (pool.give key index).holders ↔ id = index ∨ id ∈ pool.holders := by
  simp [give, Std.TreeMap.mem_insert, @eq_comm Nat id index]

theorem getElem?_give {id : GlyphId} :
    (pool.give key index).holders[id]? = if id = index then some key else pool.holders[id]? := by
  simp [give, Std.TreeMap.getElem?_insert, @eq_comm Nat id index]

theorem reserve_eq_ok {id : GlyphId} :
    pool.reserve key index = .ok (id, pool') ↔
      0 < index ∧ index ≤ GlyphId.greatest ∧ index ∉ pool.holders ∧
        id = index ∧ pool' = pool.give key index := by
  unfold reserve
  split
  · simp [*]
  · split
    · rename_i hlt
      simp [Nat.not_le.mpr hlt]
    · rename_i hzero hle
      have hpos : 0 < index := Nat.pos_of_ne_zero hzero
      have hle : index ≤ GlyphId.greatest := Nat.not_lt.mp hle
      split
      · rename_i first hfirst
        have hmem : index ∈ pool.holders := by
          rw [Std.TreeMap.mem_iff_isSome_getElem?, hfirst]
          rfl
        simp [hmem]
      · rename_i hnone
        have hmem : index ∉ pool.holders := by
          rw [Std.TreeMap.mem_iff_isSome_getElem?, hnone]
          simp
        simp [hpos, hle, hmem, give, eq_comm]

theorem reserve_eq_error {e : Fault} :
    pool.reserve key index = .error e ↔
      (index = 0 ∧ e = .reservedIndex key) ∨
      (GlyphId.greatest < index ∧ e = .indexOutOfRange key index) ∨
      (0 < index ∧ index ≤ GlyphId.greatest ∧
        ∃ first, pool.holders[index]? = some first ∧ e = .duplicateIndex index first key) := by
  unfold reserve
  split
  · rename_i hzero
    simp [hzero, eq_comm]
  · rename_i hzero
    have hpos : 0 < index := Nat.pos_of_ne_zero hzero
    split
    · rename_i hlt
      simp [hzero, hlt, Nat.not_le.mpr hlt, eq_comm]
    · rename_i hle
      have hle' : index ≤ GlyphId.greatest := Nat.not_lt.mp hle
      split
      · rename_i first hfirst
        simp [hzero, hpos, hle, hle', hfirst, eq_comm]
      · rename_i hnone
        simp [hzero, hle, hnone]

/-! ## The lowest free id -/

theorem le_firstFree (pool : IdPool) (start : Nat) : start ≤ pool.firstFree start := by
  fun_induction firstFree pool start with
  | case1 start h ih => exact Nat.le_of_succ_le ih
  | case2 start h => exact Nat.le_refl start

theorem firstFree_le (pool : IdPool) {start : Nat} (h : start ≤ GlyphId.greatest + 1) :
    pool.firstFree start ≤ GlyphId.greatest + 1 := by
  fun_induction firstFree pool start with
  | case1 start hheld ih => exact ih (Nat.succ_le_succ hheld.1)
  | case2 start hfree => exact h

theorem mem_of_lt_firstFree {start id : Nat} (hle : start ≤ id) (hlt : id < pool.firstFree start) :
    id ∈ pool.holders := by
  fun_induction firstFree pool start with
  | case1 start hheld ih =>
      rcases Nat.eq_or_lt_of_le hle with rfl | hlt'
      · exact hheld.2
      · exact ih hlt' hlt
  | case2 start hfree => exact absurd hlt (Nat.not_lt.mpr hle)

theorem firstFree_not_mem {start : Nat} (h : pool.firstFree start ≤ GlyphId.greatest) :
    pool.firstFree start ∉ pool.holders := by
  fun_induction firstFree pool start with
  | case1 start hheld ih => exact ih h
  | case2 start hfree => exact fun hmem => hfree ⟨h, hmem⟩

/-- No id below the place where the search for a free one begins is free. -/
structure Searched (pool : IdPool) : Prop where
  next_pos : 0 < pool.next
  next_le : pool.next ≤ GlyphId.greatest + 1
  held : ∀ id, 0 < id → id < pool.next → id ∈ pool.holders

theorem searched_empty : Searched {} where
  next_pos := Nat.one_pos
  next_le := by decide
  held := by
    intro id hpos hlt
    exact absurd hlt (Nat.not_lt.mpr hpos)

theorem Searched.give (h : pool.Searched) : (pool.give key index).Searched where
  next_pos := h.next_pos
  next_le := h.next_le
  held := fun id hpos hlt => mem_give.mpr (Or.inr (h.held id hpos hlt))

/-- The search skips no free id. -/
theorem Searched.mem_of_lt (h : pool.Searched) {id : Nat} (hpos : 0 < id)
    (hlt : id < pool.firstFree pool.next) : id ∈ pool.holders := by
  rcases Nat.lt_or_ge id pool.next with hbelow | hge
  · exact h.held id hpos hbelow
  · exact mem_of_lt_firstFree hge hlt

theorem Searched.advance (h : pool.Searched) :
    Searched { pool with next := pool.firstFree pool.next } where
  next_pos := Nat.lt_of_lt_of_le h.next_pos (le_firstFree pool pool.next)
  next_le := firstFree_le pool h.next_le
  held := fun _ => h.mem_of_lt

/-- Without asking, a glyph is given the lowest free id. -/
theorem Searched.allocate_of_le (h : pool.Searched)
    (hle : pool.firstFree pool.next ≤ GlyphId.greatest) :
    pool.allocate key = .ok (pool.firstFree pool.next,
      { pool with next := pool.firstFree pool.next }.give key (pool.firstFree pool.next)) :=
  reserve_eq_ok.mpr ⟨h.advance.next_pos, hle, firstFree_not_mem hle, rfl, rfl⟩

/-- Without asking, a glyph is refused an id only if none is left. -/
theorem Searched.allocate_of_lt (h : pool.Searched)
    (hlt : GlyphId.greatest < pool.firstFree pool.next) :
    pool.allocate key = .error (.indexOutOfRange key (GlyphId.greatest + 1)) := by
  have hlast : pool.firstFree pool.next = GlyphId.greatest + 1 :=
    Nat.le_antisymm (firstFree_le pool h.next_le) hlt
  exact reserve_eq_error.mpr (Or.inr (Or.inl ⟨hlt, by rw [hlast]⟩))

end Gridface.IdPool
