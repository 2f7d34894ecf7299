import Gridface.Proofs.Substitution.Builders
import Gridface.Proofs.Substitution.Lookups

/-!
# Ligature lookups

Of the ligatures of one sequence a lookup keeps the first, and of those that fit a text at a
position it tries the longest first.
-/

namespace Gridface

namespace Ligature

variable {b : Builder Ligature} {k l m : Ligature} {ls added : List Ligature}
  {text : List GlyphId} {p : Nat}

/-- The sequence of the ligature is what stands in the text from position `p` on. -/
def FitsAt (l : Ligature) (text : List GlyphId) (p : Nat) : Prop := l.sequence <+: text.drop p

instance : Decidable (l.FitsAt text p) := inferInstanceAs (Decidable (_ <+: _))

/-! ## One ligature for each sequence -/

/-- Ligatures of one sequence have the same replacement. -/
def Consistent (ls : List Ligature) : Prop := ∀ l ∈ ls, l.Agrees ls

theorem consistent_nil : Consistent [] := fun _ hl => absurd hl List.not_mem_nil

theorem Consistent.concat (h : Consistent added) (hl : l.Agrees added) :
    Consistent (added ++ [l]) := by
  intro k hk k' hk' hsame
  rw [List.mem_append, List.mem_singleton] at hk hk'
  rcases hk with hk | rfl
  · rcases hk' with hk' | rfl
    · exact h k hk k' hk' hsame
    · exact (hl k hk hsame.symm).symm
  · rcases hk' with hk' | rfl
    · exact hl k' hk' hsame
    · rfl

theorem Consistent.eq_of_sequence (h : Consistent ls) (hk : k ∈ ls) (hl : l ∈ ls)
    (hsame : k.sequence = l.sequence) : k = l := by
  have hreplacement := h l hl k hk hsame
  cases k
  cases l
  rw [mk.injEq]
  exact ⟨hsame, hreplacement⟩

/-- Where a ligature is listed, there is a first one of its sequence. -/
theorem exists_find?_eq_some (h : m ∈ ls) :
    ∃ l, ls.find? (·.sequence == m.sequence) = some l ∧ l.sequence = m.sequence := by
  have hsome : (ls.find? (·.sequence == m.sequence)).isSome :=
    List.find?_isSome.mpr ⟨m, h, beq_iff_eq.mpr rfl⟩
  obtain ⟨l, hl⟩ := Option.isSome_iff_exists.mp hsome
  have hfound := List.find?_some hl
  exact ⟨l, hl, beq_iff_eq.mp hfound⟩

theorem mem_iff_find?_eq_some (h : Consistent ls) :
    l ∈ ls ↔ ls.find? (·.sequence == l.sequence) = some l := by
  constructor
  · intro hl
    obtain ⟨k, hk, hsame⟩ := exists_find?_eq_some hl
    rw [hk, h.eq_of_sequence (List.mem_of_find?_eq_some hk) hl hsame]
  · exact List.mem_of_find?_eq_some

/-- A ligature that does not agree comes after one of the same sequence. -/
theorem find?_append_cons (h : ¬l.Agrees added) (ls : List Ligature) (s : List GlyphId) :
    (added ++ l :: ls).find? (·.sequence == s) = (added ++ ls).find? (·.sequence == s) := by
  unfold Agrees at h
  push Not at h
  obtain ⟨k, hk, hsame, -⟩ := h
  rw [List.find?_append, List.find?_append]
  by_cases hs : l.sequence = s
  · have hsome : (added.find? (·.sequence == s)).isSome :=
      List.find?_isSome.mpr ⟨k, hk, beq_iff_eq.mpr (hsame.trans hs)⟩
    rw [Option.or_of_isSome hsome, Option.or_of_isSome hsome]
  · rw [List.find?_cons_of_neg (by simpa using hs)]

/-! ## What is taken -/

/-- The ligatures that agree with what was added and taken before them. -/
def taken (added : List Ligature) : List Ligature → List Ligature
  | [] => []
  | l :: ls => if l.Agrees added then l :: taken (added ++ [l]) ls else taken added ls

theorem consistent_taken (h : Consistent added) (ls : List Ligature) :
    Consistent (added ++ taken added ls) := by
  induction ls generalizing added with
  | nil => exact (List.append_nil added).symm ▸ h
  | cons l ls ih =>
      unfold taken
      split
      · rename_i hagrees
        rw [List.append_cons]
        exact ih (h.concat hagrees)
      · exact ih h

/-- What is taken for a sequence is the first ligature of it. -/
theorem find?_taken (added ls : List Ligature) (s : List GlyphId) :
    (added ++ taken added ls).find? (·.sequence == s) =
      (added ++ ls).find? (·.sequence == s) := by
  induction ls generalizing added with
  | nil => rfl
  | cons l ls ih =>
      unfold taken
      split
      · rw [List.append_cons, ih, ← List.append_cons]
      · rename_i hagrees
        rw [ih, find?_append_cons hagrees]

theorem mem_of_mem_taken (h : l ∈ taken added ls) : l ∈ ls := by
  induction ls generalizing added with
  | nil => cases h
  | cons m ls ih =>
      unfold taken at h
      split at h
      · rcases List.mem_cons.mp h with rfl | h
        · exact List.mem_cons_self
        · exact List.mem_cons_of_mem m (ih h)
      · exact List.mem_cons_of_mem m (ih h)

/-- The ligatures that have a sequence. -/
def nonempty (ls : List Ligature) : List Ligature := ls.filter fun l => !l.sequence.isEmpty

theorem mem_nonempty : l ∈ nonempty ls ↔ l ∈ ls ∧ l.sequence ≠ [] := by
  simp [nonempty]

theorem find?_nonempty {s : List GlyphId} (hs : s ≠ []) (ls : List Ligature) :
    (nonempty ls).find? (·.sequence == s) = ls.find? (·.sequence == s) := by
  unfold nonempty
  induction ls with
  | nil => rfl
  | cons l ls ih =>
      by_cases hl : l.sequence = []
      · have hdiffers : (l.sequence == s) = false := beq_false_of_ne (hl ▸ Ne.symm hs)
        rw [List.filter_cons_of_neg (by simp [hl]), ih, List.find?_cons, hdiffers]
      · rw [List.filter_cons_of_pos (by simp [hl]), List.find?_cons, List.find?_cons, ih]

/-- The number of the glyph that the sequence begins with. -/
def firstId (l : Ligature) : Nat := l.sequence.headD 0

theorem precedes_iff {a b : Ligature} :
    precedes a b = true ↔
      a.firstId < b.firstId ∨ a.firstId = b.firstId ∧ b.sequence.length ≤ a.sequence.length := by
  simp [precedes, firstId]

theorem FitsAt.firstId_eq (h : l.FitsAt text p) (hne : l.sequence ≠ []) :
    l.firstId = (text.drop p).headD 0 := by
  obtain ⟨rest, hrest⟩ := h
  rw [← hrest, firstId]
  cases hl : l.sequence with
  | nil => exact absurd hl hne
  | cons first others => rfl

/-! ## The items of a lookup -/

variable (h : LawfulBuilder b)

include h

theorem addAll_fst (hne : ∀ l ∈ ls, l.sequence ≠ []) :
    (addAll b (b.after added) ls).1 = b.after (added ++ taken added ls) := by
  induction ls generalizing added with
  | nil =>
      rw [taken, List.append_nil]
      rfl
  | cons l ls ih =>
      obtain ⟨hl, hls⟩ := List.forall_mem_cons.mp hne
      have hadd := (h.canAdd_iff added l).trans (and_iff_right hl)
      unfold addAll taken
      by_cases hagrees : l.Agrees added
      · rw [if_pos (hadd.mpr hagrees), if_pos hagrees, ← b.after_concat, ih hls,
          List.append_assoc, List.singleton_append]
      · rw [if_neg (mt hadd.mp hagrees), if_neg hagrees]
        exact ih hls

theorem items_fst (ls : List Ligature) :
    (items b ls).1 = (taken [] (nonempty ls)).eraseDups.mergeSort precedes := by
  have hadded : (addAll b (b.after []) (nonempty ls)).1 = b.after (taken [] (nonempty ls)) :=
    addAll_fst h fun l hl => (mem_nonempty.mp hl).2
  have hitems : (items b ls).1 = b.build (addAll b (b.after []) (nonempty ls)).1 := rfl
  rw [hitems, hadded,
    h.build_eq _ fun l hl => (mem_nonempty.mp (mem_of_mem_taken hl)).2]

theorem nodup_sequences_items (ls : List Ligature) : ((items b ls).1.map sequence).Nodup := by
  have hconsistent : Consistent (taken [] (nonempty ls)) := consistent_taken consistent_nil _
  rw [items_fst h, ((List.mergeSort_perm _ _).map sequence).nodup_iff]
  refine List.Nodup.map_on (fun k hk l hl => ?_) (nodup_eraseDups _)
  exact hconsistent.eq_of_sequence (List.mem_eraseDups.mp hk) (List.mem_eraseDups.mp hl)

/-- The items are the ligatures that are the first of their sequence. -/
theorem mem_items_iff :
    l ∈ (items b ls).1 ↔ l.sequence ≠ [] ∧ ls.find? (·.sequence == l.sequence) = some l := by
  have hconsistent : Consistent (taken [] (nonempty ls)) := consistent_taken consistent_nil _
  have hfirst := find?_taken [] (nonempty ls) l.sequence
  rw [List.nil_append, List.nil_append] at hfirst
  rw [items_fst h, List.mem_mergeSort, List.mem_eraseDups, mem_iff_find?_eq_some hconsistent,
    hfirst]
  constructor
  · intro hfind
    have hne := (mem_nonempty.mp (List.mem_of_find?_eq_some hfind)).2
    rw [find?_nonempty hne] at hfind
    exact ⟨hne, hfind⟩
  · rintro ⟨hne, hfind⟩
    rw [find?_nonempty hne]
    exact hfind

theorem mem_of_mem_items (hl : l ∈ (items b ls).1) : l ∈ ls :=
  List.mem_of_find?_eq_some ((mem_items_iff h).mp hl).2

theorem exists_item (hm : m ∈ ls) (hne : m.sequence ≠ []) :
    ∃ l ∈ (items b ls).1, l.sequence = m.sequence := by
  obtain ⟨l, hl, hsame⟩ := exists_find?_eq_some hm
  exact ⟨l, (mem_items_iff h).mpr ⟨hsame ▸ hne, hsame ▸ hl⟩, hsame⟩

theorem pairwise_precedes_items (ls : List Ligature) :
    (items b ls).1.Pairwise fun a b => precedes a b = true := by
  rw [items_fst h]
  refine List.pairwise_mergeSort ?_ ?_ _
  · intro a b c hab hbc
    rw [precedes_iff] at hab hbc ⊢
    omega
  · intro a b
    rw [Bool.or_eq_true, precedes_iff, precedes_iff]
    omega

/-- The first item that fits is the longest. -/
theorem length_le_of_find?_items (hfind : (items b ls).1.find? (fun l => l.FitsAt text p) = some l)
    (hm : m ∈ (items b ls).1) (hfits : m.FitsAt text p) :
    m.sequence.length ≤ l.sequence.length := by
  obtain ⟨hl, before, after, hsplit, hbefore⟩ := List.find?_eq_some_iff_append.mp hfind
  have hmem : l ∈ (items b ls).1 := List.mem_of_find?_eq_some hfind
  have hsorted := pairwise_precedes_items h ls
  rw [hsplit, List.pairwise_append] at hsorted
  rw [hsplit, List.mem_append, List.mem_cons] at hm
  rcases hm with hm | rfl | hm
  · simpa [hfits] using hbefore m hm
  · exact Nat.le_refl _
  · -- both fit at the same position, so they begin with the same id
    have hprecedes := precedes_iff.mp ((List.pairwise_cons.mp hsorted.2.1).1 m hm)
    have hm' : m ∈ (items b ls).1 := hsplit ▸ List.mem_append_right _ (List.mem_cons_of_mem _ hm)
    have hfirst : l.firstId = m.firstId := by
      rw [(of_decide_eq_true hl).firstId_eq ((mem_items_iff h).mp hmem).1,
        hfits.firstId_eq ((mem_items_iff h).mp hm').1]
    rcases hprecedes with hlt | ⟨-, hle⟩
    · exact absurd hfirst (Nat.ne_of_lt hlt)
    · exact hle

end Ligature

/-! ## The ligatures of a font -/

/-- The items of a lookup that replaces ligatures. -/
def Lookup.ligatureItems : Lookup → List Ligature
  | ligatures items => items
  | _ => []

namespace Substitutions

/-- The items of all ligature lookups, in the order in which they are tried. -/
def ligatureItems (s : Substitutions) : List Ligature := s.lookups.flatMap Lookup.ligatureItems

theorem ligatureItems_ofItems (ligatures : List Ligature) (alternates : List Alternate)
    (rules : List ContextRule) :
    (ofItems ligatures alternates rules).ligatureItems = ligatures := by
  rw [ligatureItems, flatMap_lookups_ofItems]
  simp only [Lookup.ligatureItems, ite_self, List.append_nil]
  split
  · rfl
  · rename_i hempty
    exact (not_not.mp hempty).symm

/-- The ligature items of a font that is compiled, if it has any substitutions. -/
theorem ligatureItems_compile (builders : Builders) (ligatures : List Ligature)
    (alternates : List Alternate) (rules : List ContextRule) :
    ((compile ligatures alternates rules builders).1.map ligatureItems).getD [] =
      (Ligature.items builders.ligatures ligatures).1 :=
  (flatMap_lookups_compile _ _ _ _ _).trans (ligatureItems_ofItems _ _ _)

end Substitutions

end Gridface
