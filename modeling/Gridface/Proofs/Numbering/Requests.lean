import Gridface.Numbering.Requests
import Gridface.Proofs.Numbering.Free
import Gridface.Proofs.Numbering.Pool
import Mathlib

/-!
# Pools over any run of requests

Whatever a pool has been asked for before, the answer to the next request depends on the ids that it
has given away and on nothing else. Requests that it refused leave no trace.
-/

namespace Gridface.IdPool

variable {pool pool' : IdPool} {given : List (GlyphId × String)}

/-! ## Runs of requests -/

/-- Requests that are made one after the other, each with its answer. -/
def exchanges (pool : IdPool) : List Request → List (Request × Except Fault GlyphId)
  | [] => []
  | q :: qs => (q, (pool.answer q).1) :: exchanges (pool.answer q).2 qs

/-- The pool after some requests. -/
def after (pool : IdPool) : List Request → IdPool
  | [] => pool
  | q :: qs => after (pool.answer q).2 qs

/-- What one exchange gives away: an id, with the key that it is for. -/
def gain : Request × Except Fault GlyphId → List (GlyphId × String)
  | (q, .ok id) => [(id, q.key)]
  | (_, .error _) => []

/-- All that some exchanges give away, in order. -/
def gains (es : List (Request × Except Fault GlyphId)) : List (GlyphId × String) := es.flatMap gain

/-- The answer that is due to a request when the ids in `given` have been given away. -/
inductive Due (given : List (GlyphId × String)) : Request → Except Fault GlyphId → Prop
  | granted {key : String} {index : Nat} (hfree : IsFree (given.map Prod.fst) index)
      (hle : index ≤ GlyphId.greatest) : Due given (.reserve key index) (.ok index)
  | reserved {key : String} : Due given (.reserve key 0) (.error (.reservedIndex key))
  | outOfRange {key : String} {index : Nat} (hlt : GlyphId.greatest < index) :
      Due given (.reserve key index) (.error (.indexOutOfRange key index))
  | duplicate {key first : String} {index : Nat} (hmem : (index, first) ∈ given) :
      Due given (.reserve key index) (.error (.duplicateIndex index first key))
  | lowest {key : String} {id : GlyphId} (hfree : IsFree (given.map Prod.fst) id)
      (hleast : ∀ other, IsFree (given.map Prod.fst) other → id ≤ other)
      (hle : id ≤ GlyphId.greatest) : Due given (.allocate key) (.ok id)
  | exhausted {key : String}
      (hall : ∀ id, 0 < id → id ≤ GlyphId.greatest → id ∈ given.map Prod.fst) :
      Due given (.allocate key) (.error (.indexOutOfRange key (GlyphId.greatest + 1)))

/-! ## What a pool holds -/

/-- The pool holds just the ids in `given`, each for the key that it was given to. -/
structure Held (given : List (GlyphId × String)) (pool : IdPool) : Prop where
  searched : pool.Searched
  holder_iff : ∀ id key, pool.holders[id]? = some key ↔ (id, key) ∈ given
  nodup : (given.map Prod.fst).Nodup
  range : ∀ id ∈ given.map Prod.fst, 0 < id ∧ id ≤ GlyphId.greatest

theorem held_empty : Held [] {} where
  searched := searched_empty
  holder_iff := by
    intro id key
    simp
  nodup := List.nodup_nil
  range := by
    intro id hid
    cases hid

namespace Held

theorem mem_iff (h : Held given pool) {id : GlyphId} :
    id ∈ pool.holders ↔ id ∈ given.map Prod.fst := by
  rw [Std.TreeMap.mem_iff_isSome_getElem?, Option.isSome_iff_exists, List.mem_map]
  constructor
  · rintro ⟨key, hkey⟩
    exact ⟨(id, key), (h.holder_iff id key).mp hkey, rfl⟩
  · rintro ⟨⟨id, key⟩, hmem, rfl⟩
    exact ⟨key, (h.holder_iff id key).mpr hmem⟩

theorem advance (h : Held given pool) : Held given pool.advance where
  searched := h.searched.advance
  holder_iff := h.holder_iff
  nodup := h.nodup
  range := h.range

theorem give (h : Held given pool) {key : String} {index : Nat} (hpos : 0 < index)
    (hle : index ≤ GlyphId.greatest) (hnew : index ∉ pool.holders) :
    Held (given ++ [(index, key)]) (pool.give key index) where
  searched := h.searched.give
  holder_iff := by
    intro id other
    rw [getElem?_give, List.mem_append, List.mem_singleton, Prod.mk.injEq]
    by_cases hid : id = index
    · subst hid
      have hnot : (id, other) ∉ given := fun hmem => hnew (h.mem_iff.mpr (List.mem_map_of_mem hmem))
      simp [hnot, eq_comm]
    · simp [hid, h.holder_iff]
  nodup := by
    rw [List.map_append, List.map_singleton, List.nodup_append]
    refine ⟨h.nodup, List.nodup_singleton _, fun id hid other hother he => ?_⟩
    have hsame : id = index := he.trans (List.mem_singleton.mp hother)
    exact hnew (h.mem_iff.mpr (hsame ▸ hid))
  range := by
    intro id hid
    rw [List.map_append, List.mem_append] at hid
    rcases hid with hid | hid
    · exact h.range id hid
    · rw [List.map_singleton, List.mem_singleton] at hid
      exact hid ▸ ⟨hpos, hle⟩

/-- An id that is asked for is held from then on, unless it is refused. -/
theorem reserve (h : Held given pool) (q : Request) (index : Nat) :
    Held (given ++ gain (q, (pool.settle (pool.reserve q.key index)).1))
      (pool.settle (pool.reserve q.key index)).2 := by
  cases hr : pool.reserve q.key index with
  | error e => simpa [settle, gain] using h
  | ok result =>
      obtain ⟨id, pool'⟩ := result
      obtain ⟨hpos, hle, hnew, rfl, rfl⟩ := reserve_eq_ok.mp hr
      exact h.give hpos hle hnew

/-- One request: the pool holds what it has just given away as well. -/
theorem answer (h : Held given pool) (q : Request) :
    Held (given ++ gain (q, (pool.answer q).1)) (pool.answer q).2 := by
  cases q with
  | reserve key index => exact h.reserve (.reserve key index) index
  | allocate key => exact h.advance.reserve (.allocate key) pool.advance.next

/-- All requests: the pool holds what it has given away in the course of them. -/
theorem after (h : Held given pool) (qs : List Request) :
    Held (given ++ gains (pool.exchanges qs)) (pool.after qs) := by
  induction qs generalizing given pool with
  | nil => simpa [gains, exchanges, IdPool.after] using h
  | cons q qs ih =>
      have hrest := ih (h.answer q)
      rw [List.append_assoc] at hrest
      exact hrest

/-! ## Answers -/

theorem isFree_iff (h : Held given pool) {id : Nat} :
    IsFree (given.map Prod.fst) id ↔ 0 < id ∧ id ∉ pool.holders := by
  rw [IsFree, h.mem_iff]

theorem reserve_eq_iff (h : Held given pool) {key : String} {index : Nat}
    {a : Except Fault GlyphId} :
    (pool.settle (pool.reserve key index)).1 = a ↔ Due given (.reserve key index) a := by
  constructor
  · rintro rfl
    cases hr : pool.reserve key index with
    | ok result =>
        obtain ⟨id, pool'⟩ := result
        obtain ⟨hpos, hle, hnew, rfl, rfl⟩ := reserve_eq_ok.mp hr
        exact .granted (h.isFree_iff.mpr ⟨hpos, hnew⟩) hle
    | error e =>
        rcases reserve_eq_error.mp hr with ⟨rfl, rfl⟩ | ⟨hlt, rfl⟩ | ⟨-, -, first, hfirst, rfl⟩
        · exact .reserved
        · exact .outOfRange hlt
        · exact .duplicate ((h.holder_iff _ _).mp hfirst)
  · intro hdue
    cases hdue with
    | granted hfree hle =>
        obtain ⟨hpos, hnew⟩ := h.isFree_iff.mp hfree
        rw [reserve_eq_ok.mpr ⟨hpos, hle, hnew, rfl, rfl⟩]
        rfl
    | reserved =>
        rw [reserve_eq_error.mpr (Or.inl ⟨rfl, rfl⟩)]
        rfl
    | outOfRange hlt =>
        rw [reserve_eq_error.mpr (Or.inr (Or.inl ⟨hlt, rfl⟩))]
        rfl
    | duplicate hmem =>
        obtain ⟨hpos, hle⟩ := h.range _ (List.mem_map_of_mem hmem)
        have hfirst := (h.holder_iff _ _).mpr hmem
        rw [reserve_eq_error.mpr (Or.inr (Or.inr ⟨hpos, hle, _, hfirst, rfl⟩))]
        rfl

/-- While an id is left, the search ends at the lowest one. -/
theorem firstFree_eq_iff (h : Held given pool) {id : Nat} (hle : id ≤ GlyphId.greatest) :
    pool.firstFree pool.next = id ↔
      IsFree (given.map Prod.fst) id ∧ ∀ other, IsFree (given.map Prod.fst) other → id ≤ other := by
  have hleast : ∀ other, IsFree (given.map Prod.fst) other → pool.firstFree pool.next ≤ other := by
    intro other hother
    obtain ⟨hpos, hnot⟩ := h.isFree_iff.mp hother
    exact Nat.not_lt.mp fun hlt => hnot (h.searched.mem_of_lt hpos hlt)
  constructor
  · rintro rfl
    exact ⟨h.isFree_iff.mpr ⟨h.searched.advance.next_pos, firstFree_not_mem hle⟩, hleast⟩
  · rintro ⟨hfree, hlow⟩
    have hupper := hleast id hfree
    have hfound : IsFree (given.map Prod.fst) (pool.firstFree pool.next) :=
      h.isFree_iff.mpr
        ⟨h.searched.advance.next_pos, firstFree_not_mem (Nat.le_trans hupper hle)⟩
    exact Nat.le_antisymm hupper (hlow _ hfound)

theorem greatest_lt_firstFree_iff (h : Held given pool) :
    GlyphId.greatest < pool.firstFree pool.next ↔
      ∀ id, 0 < id → id ≤ GlyphId.greatest → id ∈ given.map Prod.fst := by
  constructor
  · intro hlt id hpos hle
    exact h.mem_iff.mp (h.searched.mem_of_lt hpos (Nat.lt_of_le_of_lt hle hlt))
  · intro hall
    refine Nat.not_le.mp fun hle => firstFree_not_mem hle (h.mem_iff.mpr ?_)
    exact hall _ h.searched.advance.next_pos hle

theorem allocate_eq_iff (h : Held given pool) {key : String} {a : Except Fault GlyphId} :
    (pool.answer (.allocate key)).1 = a ↔ Due given (.allocate key) a := by
  rcases Nat.lt_or_ge GlyphId.greatest (pool.firstFree pool.next) with hlt | hle
  · have hanswer : (pool.answer (.allocate key)).1 =
        .error (.indexOutOfRange key (GlyphId.greatest + 1)) := by
      rw [IdPool.answer, h.searched.allocate_of_lt hlt]
      rfl
    rw [hanswer]
    constructor
    · rintro rfl
      exact .exhausted (h.greatest_lt_firstFree_iff.mp hlt)
    · intro hdue
      cases hdue with
      | exhausted _ => rfl
      | lowest hfree hleast hle =>
          rw [(h.firstFree_eq_iff hle).mpr ⟨hfree, hleast⟩] at hlt
          exact absurd hle (Nat.not_le.mpr hlt)
  · have hanswer : (pool.answer (.allocate key)).1 = .ok (pool.firstFree pool.next) := by
      rw [IdPool.answer, h.searched.allocate_of_le hle]
      rfl
    rw [hanswer]
    constructor
    · rintro rfl
      obtain ⟨hfree, hleast⟩ := (h.firstFree_eq_iff hle).mp rfl
      exact .lowest hfree hleast hle
    · intro hdue
      cases hdue with
      | exhausted hall =>
          exact absurd (h.greatest_lt_firstFree_iff.mpr hall) (Nat.not_lt.mpr hle)
      | lowest hfree hleast hle =>
          rw [(h.firstFree_eq_iff hle).mpr ⟨hfree, hleast⟩]

/-- Every request gets the answer that is due. -/
theorem answer_eq_iff (h : Held given pool) {q : Request} {a : Except Fault GlyphId} :
    (pool.answer q).1 = a ↔ Due given q a := by
  cases q with
  | reserve key index => exact h.reserve_eq_iff
  | allocate key => exact h.allocate_eq_iff

end Held

/-! ## Refusals -/

/-- Where the search for a free id stands makes no difference to later requests. -/
theorem exchanges_congr {given : List (GlyphId × String)} (h : Held given pool)
    (h' : Held given pool') (qs : List Request) : pool.exchanges qs = pool'.exchanges qs := by
  -- the searches may stand at different places, but both pools go on to hold the same
  induction qs generalizing given pool pool' with
  | nil => rfl
  | cons q qs ih =>
      have hsame : (pool.answer q).1 = (pool'.answer q).1 :=
        h.answer_eq_iff.mpr (h'.answer_eq_iff.mp rfl)
      have hgiven' := h'.answer q
      rw [← hsame] at hgiven'
      simp only [exchanges, hsame, ih (h.answer q) hgiven']

theorem exchanges_of_refused (h : Held given pool) {q : Request} {e : Fault}
    (hq : (pool.answer q).1 = .error e) (later : List Request) :
    (pool.answer q).2.exchanges later = pool.exchanges later := by
  have hafter := h.answer q
  rw [hq, gain, List.append_nil] at hafter
  exact exchanges_congr hafter h later

/-! ## The search in 16 bits -/

/-- The search for a free id, with a cursor of 16 bits and no bound but that: it goes over the ids
that are held, one by one, and ends at the first that is not. -/
inductive Search (pool : IdPool) : UInt16 → UInt16 → Prop
  | found {cursor : UInt16} (h : cursor.toNat ∉ pool.holders) : Search pool cursor cursor
  | held {cursor stop : UInt16} (h : cursor.toNat ∈ pool.holders)
      (hroom : cursor.toNat + 1 < UInt16.size) (rest : Search pool (cursor + 1) stop) :
      Search pool cursor stop

theorem toNat_ofNat_of_le {id : Nat} (h : id ≤ GlyphId.greatest + 1) :
    (UInt16.ofNat id).toNat = id :=
  UInt16.toNat_ofNat_of_lt (Nat.lt_succ_of_le h)

/-- The cursor never passes the last number of 16 bits, since nobody holds that. -/
theorem Held.search (h : Held given pool) {start : Nat} (hstart : start ≤ GlyphId.greatest + 1) :
    pool.Search (UInt16.ofNat start) (UInt16.ofNat (pool.firstFree start)) := by
  fun_induction firstFree pool start with
  | case1 start hheld ih =>
      have hcursor := toNat_ofNat_of_le hstart
      refine .held (by rw [hcursor]; exact hheld.2) ?_ ?_
      · rw [hcursor]
        exact Nat.lt_succ_of_le (Nat.succ_le_succ hheld.1)
      · have hnext := ih (Nat.succ_le_succ hheld.1)
        rwa [UInt16.ofNat_add] at hnext
  | case2 start hfree =>
      refine .found ?_
      rw [toNat_ofNat_of_le hstart]
      intro hmem
      exact hfree ⟨(h.range start (h.mem_iff.mp hmem)).2, hmem⟩

theorem next_answer_allocate (h : pool.Searched) (key : String) :
    (pool.answer (.allocate key)).2.next = pool.firstFree pool.next := by
  rcases Nat.lt_or_ge GlyphId.greatest (pool.firstFree pool.next) with hlt | hle
  · rw [answer, h.allocate_of_lt hlt]
    rfl
  · rw [answer, h.allocate_of_le hle]
    rfl

/-! ## Any run -/

/-- After any run of requests, refused ones among them, no id has been given away twice and each
request gets the answer that is due for what has been given away. A refusal makes no difference to
later answers, and the search of an allocation ends without leaving its 16 bits. -/
theorem answers_over_run (qs : List Request) :
    ((gains (exchanges {} qs)).map Prod.fst).Nodup ∧
    (∀ id ∈ (gains (exchanges {} qs)).map Prod.fst, 0 < id ∧ id ≤ GlyphId.greatest) ∧
    (∀ q a, ((after {} qs).answer q).1 = a ↔ Due (gains (exchanges {} qs)) q a) ∧
    (∀ q e, ((after {} qs).answer q).1 = .error e → ∀ later,
      ((after {} qs).answer q).2.exchanges later = (after {} qs).exchanges later) ∧
    ∃ cursor stop : UInt16, cursor.toNat = (after {} qs).next ∧ (after {} qs).Search cursor stop ∧
      ∀ key, ((after {} qs).answer (.allocate key)).2.next = stop.toNat := by
  have h : Held (gains (exchanges {} qs)) (after {} qs) := held_empty.after qs
  refine ⟨h.nodup, h.range, fun q a => h.answer_eq_iff, fun q e hq => exchanges_of_refused h hq, ?_⟩
  refine ⟨_, _, toNat_ofNat_of_le h.searched.next_le, h.search h.searched.next_le, fun key => ?_⟩
  rw [next_answer_allocate h.searched, toNat_ofNat_of_le h.searched.advance.next_le]

/-- An id above the cursor is reserved, and two requests are refused before the next allocations. -/
def sampleRequests : List Request :=
  [.reserve "c" 2, .allocate "a", .reserve "d" 2, .reserve "e" 0]

theorem answers_sampleRequests :
    gains (exchanges {} sampleRequests) = [(2, "c"), (1, "a")] ∧
      ((after {} sampleRequests).answer (.reserve "d" 2)).1 = .error (.duplicateIndex 2 "c" "d") ∧
      ((after {} sampleRequests).answer (.reserve "d" 2)).2.exchanges [.allocate "b"] =
        (after {} sampleRequests).exchanges [.allocate "b"] := by
  have hrun : gains (exchanges {} sampleRequests) = [(2, "c"), (1, "a")] := by cbv
  obtain ⟨-, -, hdue, hrefused, -⟩ := answers_over_run sampleRequests
  have hanswer : ((after {} sampleRequests).answer (.reserve "d" 2)).1 =
      .error (.duplicateIndex 2 "c" "d") := by
    rw [hdue, hrun]
    exact .duplicate (List.mem_cons_self ..)
  exact ⟨hrun, hanswer, hrefused _ _ hanswer _⟩

end Gridface.IdPool
