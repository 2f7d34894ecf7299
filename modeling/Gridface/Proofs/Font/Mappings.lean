import Gridface.Font.CharacterMap
import Gridface.Proofs.Report
import Mathlib.Data.Char
import Mathlib.Data.List.Basic

/-!
# Character maps

Mappings are put in the order of their characters, so two glyphs of one character become neighbours.
The maps of a font are made of them just if there are none such and the font library stores them.
-/

namespace Gridface.CharacterMap

variable {ms : List Mapping} {a b : Mapping}

/-! ## The order of mappings -/

/-- The mappings ascend by character and, for one character, by glyph. -/
def Ascending (ms : List Mapping) : Prop :=
  ms.Pairwise fun a b => a.1 < b.1 ∨ a.1 = b.1 ∧ a.2 < b.2

theorem precedes_iff : precedes a b = true ↔ a.1 < b.1 ∨ a.1 = b.1 ∧ a.2 ≤ b.2 := by
  simp [precedes]

theorem precedes_trans (a b c : Mapping) (hab : precedes a b = true) (hbc : precedes b c = true) :
    precedes a c = true := by
  rw [precedes_iff] at hab hbc ⊢
  rcases hab with hab | ⟨hab, hab'⟩
  · rcases hbc with hbc | ⟨hbc, -⟩
    · exact .inl (lt_trans hab hbc)
    · exact .inl (hbc ▸ hab)
  · rcases hbc with hbc | ⟨hbc, hbc'⟩
    · exact .inl (hab ▸ hbc)
    · exact .inr ⟨hab.trans hbc, Nat.le_trans hab' hbc'⟩

theorem precedes_total (a b : Mapping) : (precedes a b || precedes b a) = true := by
  rw [Bool.or_eq_true, precedes_iff, precedes_iff]
  rcases lt_trichotomy a.1 b.1 with h | h | h
  · exact .inl (.inl h)
  · rcases Nat.le_total a.2 b.2 with hid | hid
    · exact .inl (.inr ⟨h, hid⟩)
    · exact .inr (.inr ⟨h.symm, hid⟩)
  · exact .inr (.inl h)

theorem eraseReps_of_nodup {β : Type} [BEq β] [LawfulBEq β] {l : List β} (h : l.Nodup) :
    l.eraseReps = l := by
  have hloop : ∀ (a : β) (l acc : List β), (a :: l).Nodup →
      List.eraseRepsBy.loop (· == ·) a l acc = acc.reverse ++ a :: l := by
    intro a l acc hnodup
    induction l generalizing a acc with
    | nil => exact List.reverse_cons
    | cons b l ih =>
        obtain ⟨hne, hrest⟩ := List.nodup_cons.mp hnodup
        have hdiffers : (a == b) = false :=
          beq_eq_false_iff_ne.mpr (List.ne_of_not_mem_cons hne)
        rw [List.eraseRepsBy.loop, hdiffers]
        rw [ih b (a :: acc) hrest, List.reverse_cons, List.append_assoc]
        rfl
  cases l with
  | nil => rfl
  | cons a l => exact hloop a l [] h

theorem normalized_eq (h : ms.Nodup) : normalized ms = ms.mergeSort precedes :=
  eraseReps_of_nodup ((List.mergeSort_perm ms precedes).nodup_iff.mpr h)

theorem normalized_perm (h : ms.Nodup) : (normalized ms).Perm ms := by
  rw [normalized_eq h]
  exact List.mergeSort_perm ms precedes

theorem ascending_normalized (h : ms.Nodup) : Ascending (normalized ms) := by
  have hnodup := (normalized_perm h).nodup_iff.mpr h
  have hsorted : (normalized ms).Pairwise fun a b => precedes a b = true := by
    rw [normalized_eq h]
    exact List.pairwise_mergeSort precedes_trans precedes_total ms
  refine (hsorted.and hnodup).imp fun {a b} ⟨hab, hne⟩ => ?_
  rcases precedes_iff.mp hab with hlt | ⟨hsame, hle⟩
  · exact .inl hlt
  · exact .inr ⟨hsame, lt_of_le_of_ne hle fun hid => hne (Prod.ext hsame hid)⟩

/-! ## Conflicts -/

/-- The character is the least one that two glyphs show, and these are the least two. -/
structure LeastConflict (shows : Char → GlyphId → Prop) (c : Char) (i j : GlyphId) : Prop where
  first : shows c i
  second : shows c j
  lt : i < j
  ids : ∀ k, shows c k → k = i ∨ j ≤ k
  least : ∀ c' i' j', shows c' i' → shows c' j' → i' ≠ j' → c ≤ c'

theorem Ascending.head_le (h : Ascending (a :: ms)) {m : Mapping} (hm : m ∈ a :: ms) :
    a.1 ≤ m.1 := by
  rcases List.mem_cons.mp hm with rfl | hm
  · exact le_rfl
  · rcases (List.pairwise_cons.mp h).1 m hm with hlt | ⟨hsame, -⟩
    · exact le_of_lt hlt
    · exact le_of_eq hsame

/-- Neighbours with different characters have the lesser one apart from all that follow. -/
theorem Ascending.head_lt (h : Ascending (a :: b :: ms)) (hne : a.1 ≠ b.1) {m : Mapping}
    (hm : m ∈ b :: ms) : a.1 < m.1 := by
  obtain ⟨ha, hrest⟩ := List.pairwise_cons.mp h
  have hlt : a.1 < b.1 := (ha b List.mem_cons_self).resolve_right fun hsame => hne hsame.1
  exact lt_of_lt_of_le hlt (Ascending.head_le hrest hm)

theorem conflict?_eq_none (h : Ascending ms) (hnone : conflict? ms = none) :
    ms.Pairwise fun a b => a.1 < b.1 := by
  fun_induction conflict? ms with
  | case1 a b rest hsame => cases hnone
  | case2 a b rest hne ih =>
      exact List.pairwise_cons.mpr ⟨fun m hm => h.head_lt hne hm, ih h.of_cons hnone⟩
  | case3 ms hshort =>
      cases ms with
      | nil => exact List.Pairwise.nil
      | cons a ms =>
          cases ms with
          | nil => exact List.pairwise_singleton _ a
          | cons b ms => exact (hshort a b ms rfl).elim

theorem conflict?_eq_some (h : Ascending ms) {fault : Fault} (hsome : conflict? ms = some fault) :
    ∃ c i j, fault = .codePointConflict c i j ∧ LeastConflict (fun c i => (c, i) ∈ ms) c i j := by
  fun_induction conflict? ms with
  | case1 a b rest hsame =>
      cases hsome
      obtain ⟨ha, hrest⟩ := List.pairwise_cons.mp h
      refine ⟨a.1, a.2, b.2, rfl, ?_⟩
      constructor
      case first => exact List.mem_cons_self
      case second => exact hsame ▸ List.mem_cons_of_mem a List.mem_cons_self
      case lt => exact ((ha b List.mem_cons_self).resolve_left (hsame ▸ lt_irrefl _)).2
      case ids =>
        intro k hk
        rcases List.mem_cons.mp hk with hk | hk
        · exact .inl (congrArg Prod.snd hk)
        · right
          rcases List.mem_cons.mp hk with hk | hk
          · exact le_of_eq (congrArg Prod.snd hk).symm
          · rcases (List.pairwise_cons.mp hrest).1 _ hk with hlt | ⟨-, hlt⟩
            · exact absurd (hsame ▸ hlt) (lt_irrefl _)
            · exact le_of_lt hlt
      case least => exact fun c' i' j' hi' hj' hne => h.head_le hi'
  | case2 a b rest hne ih =>
      -- the first character has one glyph only, as all others come after it
      obtain ⟨c, i, j, hfault, hleast⟩ := ih h.of_cons hsome
      refine ⟨c, i, j, hfault, ?_⟩
      have htail : ∀ {c' i'}, (c', i') ∈ a :: b :: rest → c' ≠ a.1 → (c', i') ∈ b :: rest := by
        intro c' i' hmem hc'
        exact (List.mem_cons.mp hmem).resolve_left fun heq => hc' (congrArg Prod.fst heq)
      have hc : a.1 < c := h.head_lt hne hleast.first
      constructor
      case first => exact List.mem_cons_of_mem a hleast.first
      case second => exact List.mem_cons_of_mem a hleast.second
      case lt => exact hleast.lt
      case ids => exact fun k hk => hleast.ids k (htail hk (ne_of_gt hc))
      case least =>
        intro c' i' j' hi' hj' hne'
        by_cases hc' : c' = a.1
        · have honly : ∀ {k}, (c', k) ∈ a :: b :: rest → k = a.2 := by
            intro k hk
            rcases List.mem_cons.mp hk with hk | hk
            · exact congrArg Prod.snd hk
            · exact absurd hc' (ne_of_gt (h.head_lt hne hk))
          exact absurd ((honly hi').trans (honly hj').symm) hne'
        · exact hleast.least c' i' j' (htail hi' hc') (htail hj' hc') hne'
  | case3 ms hshort => cases hsome

/-! ## What is compiled -/

section

variable {storageFault? : List Mapping → Option Fault}

theorem compile_eq_ok_iff {maps' : List CharacterMap} :
    compile storageFault? ms = .ok maps' ↔
      conflict? (normalized ms) = none ∧ storageFault? (normalized ms) = none ∧
        maps (normalized ms) = maps' := by
  unfold compile
  cases hconflict : conflict? (normalized ms) with
  | some fault => simp [hconflict]
  | none =>
      cases hstorage : storageFault? (normalized ms) with
      | some fault => simp [hconflict, hstorage]
      | none => simp [hconflict, hstorage, pure, Except.pure]

end

/-! ## What the maps tell -/

theorem entries_of_mem_maps {map : CharacterMap} (h : map ∈ maps ms) :
    map.format = 4 ∧
        map.entries = (ms.filter fun m => isNarrow m.1).filter (·.2 != GlyphId.notdef) ∨
      map.format = 12 ∧ map.entries = ms.filter (·.2 != GlyphId.notdef) := by
  unfold maps at h
  simp only [List.append_assoc, List.mem_append] at h
  rcases h with h | h | h | h
  all_goals
    split at h
    case isFalse => cases h
  · exact .inl (List.mem_singleton.mp h ▸ ⟨rfl, rfl⟩)
  · exact .inr (List.mem_singleton.mp h ▸ ⟨rfl, rfl⟩)
  · exact .inl (List.mem_singleton.mp h ▸ ⟨rfl, rfl⟩)
  · exact .inr (List.mem_singleton.mp h ▸ ⟨rfl, rfl⟩)

theorem mem_entries_iff {map : CharacterMap} (h : map ∈ maps ms) {c : Char} {id : GlyphId} :
    (c, id) ∈ map.entries ↔
      (c, id) ∈ ms ∧ id ≠ GlyphId.notdef ∧ (map.format = 4 → isNarrow c = true) := by
  rcases entries_of_mem_maps h with ⟨hformat, hentries⟩ | ⟨hformat, hentries⟩
  · rw [hentries, hformat, List.mem_filter, List.mem_filter, bne_iff_ne]
    exact ⟨fun ⟨⟨hmem, hnarrow⟩, hid⟩ => ⟨hmem, hid, fun _ => hnarrow⟩,
      fun ⟨hmem, hid, hnarrow⟩ => ⟨⟨hmem, hnarrow rfl⟩, hid⟩⟩
  · rw [hentries, hformat, List.mem_filter, bne_iff_ne]
    exact ⟨fun ⟨hmem, hid⟩ => ⟨hmem, hid, fun hne => absurd hne (by decide)⟩,
      fun ⟨hmem, hid, _⟩ => ⟨hmem, hid⟩⟩

end Gridface.CharacterMap
