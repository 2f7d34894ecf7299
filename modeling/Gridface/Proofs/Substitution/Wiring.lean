import Gridface.Proofs.Font.Reading
import Gridface.Proofs.Substitution.Alternates
import Gridface.Proofs.Substitution.Ligatures
import Mathlib.Data.List.Permutation

/-!
# How lookups and features are linked

A feature applies its lookup by an index, and so does a contextual rule. The features are sorted
after their indices were taken; every index still leads to a lookup of the kind it is meant for.
-/

namespace Gridface

variable {ligatures : List Ligature} {alternates : List Alternate} {rules : List ContextRule}

/-! ## What gives a lookup something to hold -/

theorem Ligature.items_eq_nil_iff {b : Builder Ligature} (h : LawfulBuilder b) :
    (items b ligatures).1 = [] ↔ ∀ l ∈ ligatures, l.sequence = [] := by
  constructor
  · intro hitems l hl
    by_contra hne
    obtain ⟨k, hk, -⟩ := exists_item h hl hne
    rw [hitems] at hk
    cases hk
  · intro hempty
    rw [List.eq_nil_iff_forall_not_mem]
    intro l hl
    exact ((mem_items_iff h).mp hl).1 (hempty l (mem_of_mem_items h hl))

/-! ## The links -/

namespace Lookup

/-- The number of the kind of a lookup in a font file. -/
def kind (l : Lookup) : Nat := (FontFile.lookupParts l).1

/-- The tag of the feature that is meant for a lookup. -/
def tag : Lookup → String
  | .ligatures _ => "liga"
  | .alternates _ => "salt"
  | .contextual _ _ => "calt"

end Lookup

namespace Substitutions

variable {s : Substitutions}

/-- One feature for each lookup, which it applies. -/
def links (s : Substitutions) : List Feature :=
  s.lookups.zipIdx.map fun p => { tag := p.1.tag, lookup := p.2 }

theorem mem_links_iff {f : Feature} :
    f ∈ s.links ↔ ∃ l, s.lookups[f.lookup]? = some l ∧ f.tag = l.tag := by
  constructor
  · intro hf
    obtain ⟨p, hp, rfl⟩ := List.mem_map.mp hf
    exact ⟨p.1, List.mem_zipIdx_iff_getElem?.mp hp, rfl⟩
  · rintro ⟨l, hl, htag⟩
    refine List.mem_map.mpr ⟨(l, f.lookup), List.mem_zipIdx_iff_getElem?.mpr hl, ?_⟩
    rw [← htag]

theorem map_tag_links (s : Substitutions) : s.links.map Feature.tag = s.lookups.map Lookup.tag := by
  have htags : s.links.map Feature.tag = (s.lookups.zipIdx.map Prod.fst).map Lookup.tag := by
    rw [links, List.map_map, List.map_map]
    rfl
  rw [htags, List.zipIdx_map_fst]

/-- What is added last disturbs no link that is there. -/
theorem features_add {tag : String} {lookup : Option Lookup} (hs : s.features = s.links)
    (htag : ∀ l ∈ lookup.toList, l.tag = tag) :
    (s.add tag lookup).features = (s.add tag lookup).links := by
  cases lookup with
  | none => exact hs
  | some l =>
      show s.features ++ [{ tag, lookup := s.lookups.length }] =
        (s.lookups ++ [l]).zipIdx.map fun p => { tag := p.1.tag, lookup := p.2 }
      rw [List.zipIdx_append, List.map_append, hs, ← htag l List.mem_cons_self, Nat.zero_add]
      rfl

/-! ## Links from the features -/

theorem tag_of_toList_eq_ite {lookup : Option Lookup} {p : Prop} [Decidable p] {l : Lookup}
    (h : lookup.toList = if p then [l] else []) : ∀ k ∈ lookup.toList, k.tag = l.tag := by
  intro k hk
  rw [h, List.mem_ite_nil_right, List.mem_singleton] at hk
  exact congrArg Lookup.tag hk.2

theorem features_ofItems (ligatures : List Ligature) (alternates : List Alternate)
    (rules : List ContextRule) :
    (ofItems ligatures alternates rules).features = (ofItems ligatures alternates rules).links := by
  have hligatures := tag_of_toList_eq_ite (toList_ligatureLookup? ligatures)
  have halternates := tag_of_toList_eq_ite (toList_alternateLookup? alternates)
  have hrules := fun index => tag_of_toList_eq_ite (toList_contextLookup? rules index)
  unfold ofItems
  simp only
  split
  · exact features_add rfl hligatures
  · exact features_add (features_add (features_add rfl hligatures) halternates) (hrules _)

/-- No two lookups are meant for the same feature. -/
theorem nodup_tags_ofItems (ligatures : List Ligature) (alternates : List Alternate)
    (rules : List ContextRule) :
    ((ofItems ligatures alternates rules).lookups.map Lookup.tag).Nodup := by
  have hone : ∀ {p : Prop} [Decidable p] (l : Lookup),
      ((if p then [l] else []).map Lookup.tag).Sublist [l.tag] := by
    intro p _ l
    split
    · exact List.Sublist.refl _
    · exact List.nil_sublist _
  have hsub : ((ofItems ligatures alternates rules).lookups.map Lookup.tag).Sublist
      (["liga"] ++ (["salt"] ++ ["calt"])) := by
    rw [lookups_ofItems, toList_ligatureLookup?, List.map_append, List.map_append]
    exact (hone (.ligatures _)).append ((hone (.alternates _)).append (hone (.contextual _ _)))
  exact hsub.nodup (by decide)

/-- The rules apply the lookup of the alternates. -/
theorem contextual_mem_ofItems {rs : List ContextRule} {index : Nat}
    (h : .contextual rs index ∈ (ofItems ligatures alternates rules).lookups) :
    rs = (rules.filter fun r => r.CanApply) ∧ index = alternatesIndex ligatures ∧
      (ofItems ligatures alternates rules).lookups[index]? = some (.alternates alternates) := by
  rw [lookups_ofItems, List.mem_append, List.mem_append, toList_ligatureLookup?,
    List.mem_ite_nil_right, List.mem_ite_nil_right, List.mem_ite_nil_right, List.mem_singleton,
    List.mem_singleton, List.mem_singleton] at h
  rcases h with ⟨-, hl⟩ | ⟨-, hl⟩ | ⟨hrules, hl⟩
  · cases hl
  · cases hl
  · cases hl
    refine ⟨rfl, rfl, ?_⟩
    rw [lookups_ofItems, if_pos hrules.1, alternatesIndex,
      List.getElem?_append_right (Nat.le_refl _), Nat.sub_self]
    rfl

/-! ## Sorted features -/

theorem pairwise_tag_sorted (s : Substitutions) (h : (s.features.map Feature.tag).Nodup) :
    s.sorted.features.Pairwise fun f g => f.tag < g.tag := by
  have hle : s.sorted.features.Pairwise fun f g => decide (f.tag ≤ g.tag) = true := by
    refine List.pairwise_mergeSort ?_ ?_ _
    · intro a b c hab hbc
      rw [decide_eq_true_iff] at hab hbc ⊢
      exact String.le_trans hab hbc
    · intro a b
      rw [Bool.or_eq_true, decide_eq_true_iff, decide_eq_true_iff]
      exact String.le_total a.tag b.tag
  have hne : s.sorted.features.Pairwise fun f g => f.tag ≠ g.tag :=
    List.pairwise_map.mp (((List.mergeSort_perm s.features _).map Feature.tag).nodup_iff.mpr h)
  exact (hle.and hne).imp fun hfg => String.not_le.mp fun hge =>
    hfg.2 (String.le_antisymm (of_decide_eq_true hfg.1) hge)

end Substitutions

/-! ## The record of a rule in the file -/

namespace FontFile

theorem length_words (ns : List Nat) : (words ns).length = 2 * ns.length := by
  induction ns with
  | nil => rfl
  | cons n ns ih =>
      show (word n ++ words ns).length = 2 * (ns.length + 1)
      rw [List.length_append, ih, length_word]
      omega

theorem length_counted (ns : List Nat) : (counted ns).length = 2 + 2 * ns.length := by
  rw [counted, List.length_append, length_word, length_words]

/-- Where the records of a rule begin: behind what it says about its sets. -/
def recordsPlace (r : ContextRule) : Nat := 10 + 2 * (r.backtrack.length + r.lookahead.length)

/-- The part of a lookup has one record: it applies the lookup with the given index to the first
glyph. -/
structure HasRecord (part : Bytes) (place index : Nat) : Prop where
  count : wordAt? part place = some 1
  position : wordAt? part (place + 2) = some 0
  lookup : wordAt? part (place + 4) = some index

/-- Before the record stand the offsets of the sets, in three lists with their counts. -/
theorem drop_rulePart (r : ContextRule) (index : Nat) :
    ∃ after, (rulePart r index).drop (recordsPlace r) = words [1, 0, index] ++ after := by
  let parts := (r.backtrack ++ r.input :: r.lookahead).map fun s => coverage s.ids
  let starts := offsets (14 + 2 * (r.backtrack ++ r.input :: r.lookahead).length) parts
  let count := r.backtrack.length
  let front := word 3 ++ counted (starts.take count) ++ counted ((starts.drop count).take 1) ++
    counted (starts.drop (count + 1))
  have hstarts : starts.length = count + (r.lookahead.length + 1) := by
    rw [length_offsets, List.length_map, List.length_append, List.length_cons]
  have hfront : front.length = recordsPlace r := by
    simp only [front, List.length_append, length_word, length_counted, List.length_take,
      List.length_drop, hstarts, recordsPlace]
    omega
  have hpart : rulePart r index = front ++ (words [1, 0, index] ++ parts.flatten) := by
    rw [← List.append_assoc]
    rfl
  exact ⟨parts.flatten, hpart ▸ List.drop_left' hfront⟩

theorem hasRecord_rulePart (r : ContextRule) {index : Nat} (h : index ≤ greatestCount) :
    HasRecord (rulePart r index) (recordsPlace r) index := by
  obtain ⟨after, hdrop⟩ := drop_rulePart r index
  have hcount : (rulePart r index).drop (recordsPlace r) = word 1 ++ (words [0, index] ++ after) :=
    hdrop
  have hposition : (rulePart r index).drop (recordsPlace r + 2) =
      word 0 ++ (words [index] ++ after) := by
    rw [← List.drop_drop, hdrop]
    rfl
  have hlookup : (rulePart r index).drop (recordsPlace r + 4) = word index ++ after := by
    rw [← List.drop_drop, hdrop]
    rfl
  exact ⟨wordAt?_eq_some hcount (by decide), wordAt?_eq_some hposition (by decide),
    wordAt?_eq_some hlookup h⟩

end FontFile

/-! ## What is compiled -/

namespace Substitutions

/-- Every lookup has something to hold, and what names a lookup names one of the kind meant. -/
structure Wired (ligatures : List Ligature) (alternates : List Alternate) (rules : List ContextRule)
    (s : Substitutions) : Prop where
  kinds : s.lookups.map Lookup.kind =
    (if ∃ l ∈ ligatures, l.sequence ≠ [] then [4] else []) ++
      ((if alternates ≠ [] then [1] else []) ++
        if alternates ≠ [] ∧ ∃ r ∈ rules, r.CanApply then [6] else [])
  contextual : ∀ rs index, .contextual rs index ∈ s.lookups →
    rs = (rules.filter fun r => r.CanApply) ∧
      (∃ items, s.lookups[index]? = some (.alternates items)) ∧
      ∀ r ∈ rs, FontFile.HasRecord (FontFile.rulePart r index) (FontFile.recordsPlace r) index
  features : s.features.Perm s.links
  ascending : s.features.Pairwise fun f g => f.tag < g.tag
  linked : ∀ f ∈ s.features, ∃ l, s.lookups[f.lookup]? = some l ∧ f.tag = l.tag
  defaults : s.defaultFeatures.Nodup ∧ ∀ i, i ∈ s.defaultFeatures ↔ i < s.features.length

section

variable {builders : Builders} (h : builders.IsLawful)

include h

theorem map_kind_ofRecords (ligatures : List Ligature) (alternates : List Alternate)
    (rules : List ContextRule) :
    (ofRecords builders ligatures alternates rules).lookups.map Lookup.kind =
      (if ∃ l ∈ ligatures, l.sequence ≠ [] then [4] else []) ++
        ((if alternates ≠ [] then [1] else []) ++
          if alternates ≠ [] ∧ ∃ r ∈ rules, r.CanApply then [6] else []) := by
  have hligatures : (Ligature.items builders.ligatures ligatures).1 ≠ [] ↔
      ∃ l ∈ ligatures, l.sequence ≠ [] := by
    rw [ne_eq, Ligature.items_eq_nil_iff h.ligatures]
    simp
  have halternates : (Alternate.items builders.alternates alternates).1 ≠ [] ↔ alternates ≠ [] :=
    not_congr h.alternates.items_eq_nil_iff
  rw [ofRecords, lookups_ofItems, toList_ligatureLookup?, List.map_append, List.map_append]
  simp only [hligatures, halternates, apply_ite (List.map Lookup.kind)]
  rfl

theorem lookups_ofRecords_eq_nil_iff :
    (ofRecords builders ligatures alternates rules).lookups = [] ↔
      (∀ l ∈ ligatures, l.sequence = []) ∧ alternates = [] := by
  rw [← List.map_eq_nil_iff (f := Lookup.kind), map_kind_ofRecords h]
  cases alternates with
  | nil => simp
  | cons a as => simp

theorem wired_sorted (ligatures : List Ligature) (alternates : List Alternate)
    (rules : List ContextRule) :
    (ofRecords builders ligatures alternates rules).sorted.Wired ligatures alternates rules := by
  have hlinks : (ofRecords builders ligatures alternates rules).features =
      (ofRecords builders ligatures alternates rules).links := features_ofItems _ _ _
  have hperm : (ofRecords builders ligatures alternates rules).sorted.features.Perm
      (ofRecords builders ligatures alternates rules).links := hlinks ▸ List.mergeSort_perm _ _
  constructor
  case kinds => exact map_kind_ofRecords h ligatures alternates rules
  case contextual =>
    intro rs index hmem
    obtain ⟨hrules, rfl, halternates⟩ := contextual_mem_ofItems hmem
    have hindex : alternatesIndex (Ligature.items builders.ligatures ligatures).1 ≤ greatestCount :=
      Nat.le_trans (alternatesIndex_le_one _) (by decide)
    exact ⟨hrules, ⟨_, halternates⟩, fun r _ => FontFile.hasRecord_rulePart r hindex⟩
  case features => exact hperm
  case ascending =>
    apply pairwise_tag_sorted
    rw [hlinks, map_tag_links]
    exact nodup_tags_ofItems _ _ _
  case linked =>
    intro f hf
    exact mem_links_iff.mp (hperm.mem_iff.mp hf)
  case defaults => exact ⟨List.nodup_range, fun i => List.mem_range⟩

/-- With lawful builders nothing is compiled from nothing, and all else is wired. -/
theorem wired_compile (ligatures : List Ligature) (alternates : List Alternate)
    (rules : List ContextRule) :
    ((compile ligatures alternates rules builders).1 = none ↔
      (∀ l ∈ ligatures, l.sequence = []) ∧ alternates = []) ∧
    ∀ s, (compile ligatures alternates rules builders).1 = some s →
      s.Wired ligatures alternates rules := by
  rw [compile_fst, ← lookups_ofRecords_eq_nil_iff h]
  split
  · rename_i hnone
    exact ⟨iff_of_true rfl hnone, fun s hs => nomatch hs⟩
  · rename_i hsome
    refine ⟨iff_of_false (Option.some_ne_none _) hsome, fun s hs => ?_⟩
    cases hs
    exact wired_sorted h ligatures alternates rules

end

/-- Without ligatures the alternates come first; of two rules one can apply. -/
def sampleRules : List ContextRule :=
  [⟨[], .ofList [4], [.empty]⟩, ⟨[.ofList [7, 3]], .ofList [4], []⟩]

theorem wired_sampleRules :
    ∃ s, (compile [⟨[], 9⟩] [⟨4, 5⟩] sampleRules).1 = some s ∧
      s.lookups = [.alternates [⟨4, 5⟩], .contextual [⟨[.ofList [7, 3]], .ofList [4], []⟩] 0] ∧
      s.features = [⟨"calt", 1⟩, ⟨"salt", 0⟩] ∧ s.Wired [⟨[], 9⟩] [⟨4, 5⟩] sampleRules := by
  have hrun : (compile [⟨[], 9⟩] [⟨4, 5⟩] sampleRules).1 = some
      ⟨[.alternates [⟨4, 5⟩], .contextual [⟨[.ofList [7, 3]], .ofList [4], []⟩] 0],
        [⟨"calt", 1⟩, ⟨"salt", 0⟩]⟩ := by
    cbv
  exact ⟨_, hrun, rfl, rfl, (wired_compile Builders.isLawful_standard _ _ _).2 _ hrun⟩

end Substitutions

end Gridface
