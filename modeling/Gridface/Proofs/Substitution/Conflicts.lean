import Gridface.Proofs.Substitution.Alternates
import Gridface.Proofs.Substitution.Ligatures

/-!
# Records that contradict each other

Of several alternates of a glyph the last one counts, and of several ligatures of a sequence the
first one. No record is lost without a notice, and no notice is given where nothing is lost.
-/

namespace Gridface

namespace Alternate

variable {store : Builder Alternate} {a b : Alternate} {as placed seen : List Alternate}
  {source : GlyphId}

/-! ## Notices about alternates -/

/-- All records of the source have the same replacement. -/
def Agree (as : List Alternate) (source : GlyphId) : Prop :=
  ∀ a ∈ as, ∀ b ∈ as, a.source = source → b.source = source → a.replacement = b.replacement

theorem agree_concat (h : Latest placed seen) (hseen : Agree seen source) :
    Agree (seen ++ [a]) source ↔
      (a.source = source → ∀ b ∈ placed, b.source = source → b.replacement = a.replacement) := by
  constructor
  · intro hagree ha b hb hsource
    have hmem : b ∈ seen ++ [a] := List.mem_append_left _ ((h.mem_iff b).mp hb).mem
    exact hagree b hmem a List.mem_concat_self hsource ha
  · intro hlatest
    have hnew : ∀ b ∈ seen, a.source = source → b.source = source →
        b.replacement = a.replacement := by
      intro b hb ha hsource
      -- the last record of the source stands for all of them
      obtain ⟨c, hc, hsame⟩ := exists_isLast hb
      have hcsource : c.source = source := hsame.trans hsource
      rw [hseen b hb c hc.mem hsource hcsource]
      exact hlatest ha c ((h.mem_iff c).mpr hc) hcsource
    intro b hb c hc hbsource hcsource
    rw [List.mem_append, List.mem_singleton] at hb hc
    rcases hb with hb | rfl
    · rcases hc with hc | rfl
      · exact hseen b hb c hc hbsource hcsource
      · exact hnew b hb hcsource hbsource
    · rcases hc with hc | rfl
      · exact (hnew c hc hbsource hcsource).symm
      · rfl

theorem Agree.of_append (h : Agree (seen ++ as) source) : Agree seen source :=
  fun a ha b hb => h a (List.mem_append_left _ ha) b (List.mem_append_left _ hb)

theorem addAll_cons_snd (s : store.State) (a : Alternate) (as : List Alternate) :
    (addAll store s (a :: as)).2 =
      if store.canAdd s a then (addAll store (store.insert s a) as).2
      else .severalAlternates a.source a.replacement :: (addAll store (store.insert s a) as).2 :=
  rfl

theorem noticed_iff (h : LawfulBuilder store) (hseen : Agree seen source) :
    (∃ r, .severalAlternates source r ∈ (addAll store (store.after seen) as).2) ↔
      ¬Agree (seen ++ as) source := by
  induction as generalizing seen with
  | nil =>
      refine iff_of_false ?_ (not_not_intro ((List.append_nil seen).symm ▸ hseen))
      rintro ⟨r, hr⟩
      cases hr
  | cons a as ih =>
      rw [addAll_cons_snd, ← store.after_concat, List.append_cons seen a as]
      by_cases hagree : Agree (seen ++ [a]) source
      · -- nothing is said about the source at this record
        rw [← ih hagree]
        rw [agree_concat (h.latest seen) hseen] at hagree
        split
        · exact Iff.rfl
        · rename_i hrefused
          have hother : a.source ≠ source := by
            rintro rfl
            exact hrefused ((h.canAdd_iff seen a).mpr (hagree rfl))
          refine exists_congr fun r => ?_
          rw [List.mem_cons, Notice.severalAlternates.injEq]
          exact or_iff_right fun hhead => hother hhead.1.symm
      · refine iff_of_true ?_ fun hall => hagree hall.of_append
        rw [agree_concat (h.latest seen) hseen] at hagree
        push Not at hagree
        obtain ⟨rfl, b, hb, hsame, hne⟩ := hagree
        rw [if_neg fun hadd => hne ((h.canAdd_iff seen a).mp hadd b hb hsame)]
        exact ⟨a.replacement, List.mem_cons_self⟩

theorem exists_of_mem_notices {s : store.State} {n : Notice} (h : n ∈ (addAll store s as).2) :
    ∃ a : Alternate, n = .severalAlternates a.source a.replacement := by
  induction as generalizing s with
  | nil => cases h
  | cons a as ih =>
      rw [addAll_cons_snd] at h
      split at h
      · exact ih h
      · rcases List.mem_cons.mp h with rfl | h
        · exact ⟨a, rfl⟩
        · exact ih h

end Alternate

/-- The ligature that a notice says is not kept. -/
def Notice.droppedLigature? : Notice → Option Ligature
  | repeatedLigature sequence replacement => some { sequence, replacement }
  | _ => none

namespace Ligature

variable {b : Builder Ligature} {l m : Ligature} {ls kept added : List Ligature}

/-! ## Notices about ligatures -/

/-- The first ligature of its sequence has another replacement. -/
def IsDropped (l : Ligature) (ls : List Ligature) : Prop :=
  ∃ first ∈ ls.find? (·.sequence == l.sequence), first.replacement ≠ l.replacement

instance : Decidable (l.IsDropped ls) :=
  match h : ls.find? (·.sequence == l.sequence) with
  | none => .isFalse fun ⟨first, hfirst, _⟩ => by rw [h] at hfirst; cases hfirst
  | some first => decidable_of_iff (first.replacement ≠ l.replacement) (by simp [IsDropped, h])

theorem isDropped_congr (h : ls.find? (·.sequence == l.sequence) =
    kept.find? (·.sequence == l.sequence)) : l.IsDropped ls ↔ l.IsDropped kept := by
  rw [IsDropped, IsDropped, h]

theorem isDropped_iff (h : Consistent added) : l.IsDropped added ↔ ¬l.Agrees added := by
  unfold Agrees
  push Not
  constructor
  · rintro ⟨first, hfirst, hdiffers⟩
    exact ⟨first, List.mem_of_find?_eq_some hfirst, beq_iff_eq.mp (List.find?_some hfirst :),
      hdiffers⟩
  · rintro ⟨k, hk, hsame, hdiffers⟩
    refine ⟨k, ?_, hdiffers⟩
    rw [← hsame]
    exact (mem_iff_find?_eq_some h).mp hk

theorem isDropped_append_cons : l.IsDropped (added ++ l :: ls) ↔ l.IsDropped added := by
  have hself : (l :: ls).find? (·.sequence == l.sequence) = some l :=
    List.find?_cons_of_pos (beq_iff_eq.mpr rfl)
  rw [IsDropped, IsDropped, List.find?_append, hself]
  cases added.find? (·.sequence == l.sequence) with
  | none => simp
  | some first => rfl

theorem addAll_cons_snd (s : b.State) (l : Ligature) (ls : List Ligature) :
    (addAll b s (l :: ls)).2 =
      if b.canAdd s l then (addAll b (b.insert s l) ls).2
      else .repeatedLigature l.sequence l.replacement :: (addAll b s ls).2 := by
  by_cases hadd : b.canAdd s l
  · rw [addAll, if_pos hadd, if_pos hadd]
  · rw [addAll, if_neg hadd, if_neg hadd]

/-- Whether a ligature is dropped is settled by those before it, and shows in the whole list. -/
theorem notices_addAll (h : LawfulBuilder b) (hadded : Consistent added)
    (hne : ∀ l ∈ ls, l.sequence ≠ []) :
    (addAll b (b.after added) ls).2.filterMap Notice.droppedLigature? =
      ls.filter fun l => l.IsDropped (added ++ ls) := by
  induction ls generalizing added with
  | nil => rfl
  | cons l ls ih =>
      obtain ⟨hl, hls⟩ := List.forall_mem_cons.mp hne
      have hadd := (h.canAdd_iff added l).trans (and_iff_right hl)
      have hdropped : l.IsDropped (added ++ l :: ls) ↔ ¬l.Agrees added :=
        isDropped_append_cons.trans (isDropped_iff hadded)
      rw [addAll_cons_snd]
      by_cases hagrees : l.Agrees added
      · rw [if_pos (hadd.mpr hagrees), ← b.after_concat, ih (hadded.concat hagrees) hls,
          ← List.append_cons, List.filter_cons_of_neg]
        simpa using hdropped.not.mpr (not_not_intro hagrees)
      · rw [if_neg (mt hadd.mp hagrees), List.filterMap_cons, ih hadded hls,
          List.filter_cons_of_pos (by simpa using hdropped.mpr hagrees)]
        refine congrArg (l :: ·) (List.filter_congr fun m _ => ?_)
        rw [decide_eq_decide]
        exact isDropped_congr (find?_append_cons hagrees ls m.sequence).symm

theorem notices_items (h : LawfulBuilder b) (ls : List Ligature) :
    (items b ls).2.filterMap Notice.droppedLigature? =
      ls.filter fun l => l.sequence ≠ [] ∧ l.IsDropped ls := by
  have hitems : (items b ls).2 = (addAll b (b.after []) (nonempty ls)).2 := rfl
  rw [hitems, notices_addAll h consistent_nil fun l hl => (mem_nonempty.mp hl).2, List.nil_append,
    nonempty, List.filter_filter]
  refine List.filter_congr fun l _ => ?_
  rw [Bool.eq_iff_iff, Bool.and_eq_true, decide_eq_true_iff, decide_eq_true_iff,
    Bool.not_eq_true', List.isEmpty_eq_false_iff, and_comm]
  exact and_congr_right fun hne => isDropped_congr (find?_nonempty hne ls)

/-- All ligatures are kept that are not dropped, and nothing else. -/
theorem mem_items_iff_not_dropped (h : LawfulBuilder b) :
    l ∈ (items b ls).1 ↔ l ∈ ls ∧ l.sequence ≠ [] ∧ ¬l.IsDropped ls := by
  rw [mem_items_iff h]
  constructor
  · rintro ⟨hne, hfirst⟩
    refine ⟨List.mem_of_find?_eq_some hfirst, hne, ?_⟩
    rintro ⟨first, hother, hdiffers⟩
    rw [hfirst] at hother
    cases hother
    exact hdiffers rfl
  · rintro ⟨hl, hne, hkept⟩
    obtain ⟨first, hfirst, hsequence⟩ := exists_find?_eq_some hl
    have hreplacement : first.replacement = l.replacement := by
      by_contra hdiffers
      exact hkept ⟨first, hfirst, hdiffers⟩
    refine ⟨hne, hfirst.trans (congrArg some ?_)⟩
    cases first with
    | mk sequence replacement =>
        cases l with
        | mk sequence' replacement' =>
            rw [mk.injEq]
            exact ⟨hsequence, hreplacement⟩

theorem exists_of_mem_notices {s : b.State} {n : Notice} (h : n ∈ (addAll b s ls).2) :
    ∃ l : Ligature, n = .repeatedLigature l.sequence l.replacement := by
  induction ls generalizing s with
  | nil => cases h
  | cons l ls ih =>
      rw [addAll_cons_snd] at h
      split at h
      · exact ih h
      · rcases List.mem_cons.mp h with rfl | h
        · exact ⟨l, rfl⟩
        · exact ih h

end Ligature

/-! ## What is compiled -/

/-- The items of a lookup that replaces single glyphs. -/
def Lookup.alternateItems : Lookup → List Alternate
  | alternates items => items
  | _ => []

namespace Substitutions

variable {builders : Builders} {ligatures : List Ligature} {alternates : List Alternate}
  {rules : List ContextRule}

/-- The items of all alternate lookups. -/
def alternateItems (s : Substitutions) : List Alternate := s.lookups.flatMap Lookup.alternateItems

theorem alternateItems_ofItems (ligatures : List Ligature) (alternates : List Alternate)
    (rules : List ContextRule) :
    (ofItems ligatures alternates rules).alternateItems = alternates := by
  rw [alternateItems, flatMap_lookups_ofItems]
  simp only [Lookup.alternateItems, ite_self, List.append_nil, List.nil_append]
  split
  · rfl
  · rename_i hempty
    exact (not_not.mp hempty).symm

/-- The alternate items of a font that is compiled, if it has any substitutions. -/
theorem alternateItems_compile (builders : Builders) (ligatures : List Ligature)
    (alternates : List Alternate) (rules : List ContextRule) :
    ((compile ligatures alternates rules builders).1.map alternateItems).getD [] =
      (Alternate.items builders.alternates alternates).1 :=
  (flatMap_lookups_compile _ _ _ _ _).trans (alternateItems_ofItems _ _ _)

theorem compile_snd (builders : Builders) (ligatures : List Ligature) (alternates : List Alternate)
    (rules : List ContextRule) :
    (compile ligatures alternates rules builders).2 =
      (Ligature.items builders.ligatures ligatures).2 ++
        (Alternate.items builders.alternates alternates).2 ++
          if (Alternate.items builders.alternates alternates).1.isEmpty && !rules.isEmpty then
            [.idleRules]
          else [] :=
  rfl

theorem several_mem_compile_iff {source r : GlyphId} :
    .severalAlternates source r ∈ (compile ligatures alternates rules builders).2 ↔
      .severalAlternates source r ∈ (Alternate.items builders.alternates alternates).2 := by
  rw [compile_snd, List.append_assoc, List.mem_append, List.mem_append]
  constructor
  · rintro (h | h | h)
    · obtain ⟨l, hl⟩ := Ligature.exists_of_mem_notices h
      cases hl
    · exact h
    · split at h
      · cases List.mem_singleton.mp h
      · cases h
  · exact fun h => .inr (.inl h)

theorem droppedLigatures_compile (builders : Builders) (ligatures : List Ligature)
    (alternates : List Alternate) (rules : List ContextRule) :
    (compile ligatures alternates rules builders).2.filterMap Notice.droppedLigature? =
      (Ligature.items builders.ligatures ligatures).2.filterMap Notice.droppedLigature? := by
  have halternates : (Alternate.items builders.alternates alternates).2.filterMap
      Notice.droppedLigature? = [] := by
    refine List.filterMap_eq_nil_iff.mpr fun n hn => ?_
    obtain ⟨a, rfl⟩ := Alternate.exists_of_mem_notices hn
    rfl
  rw [compile_snd, List.filterMap_append, List.filterMap_append, halternates, List.append_nil]
  split
  · exact List.append_nil _
  · exact List.append_nil _

/-- Which records win, and which notices tell of those that do not. -/
structure Settled (ligatures : List Ligature) (alternates : List Alternate)
    (compiled : Option Substitutions × List Notice) : Prop where
  ascending : Alternate.Ascending ((compiled.1.map alternateItems).getD [])
  last_wins : ∀ a, a ∈ (compiled.1.map alternateItems).getD [] ↔ a.IsLast alternates
  several : ∀ source, (∃ r, .severalAlternates source r ∈ compiled.2) ↔
    ∃ a ∈ alternates, ∃ b ∈ alternates,
      a.source = source ∧ b.source = source ∧ a.replacement ≠ b.replacement
  dropped : compiled.2.filterMap Notice.droppedLigature? =
    ligatures.filter fun l => l.sequence ≠ [] ∧ l.IsDropped ligatures
  kept : ∀ l, l ∈ (compiled.1.map ligatureItems).getD [] ↔
    l ∈ ligatures ∧ l.sequence ≠ [] ∧ ¬l.IsDropped ligatures

/-- With lawful builders, of alternates the last record of a source wins, of ligatures the first
record of a sequence. -/
theorem settled_compile (h : builders.IsLawful) (ligatures : List Ligature)
    (alternates : List Alternate) (rules : List ContextRule) :
    Settled ligatures alternates (compile ligatures alternates rules builders) := by
  have hlatest := h.alternates.latest_items alternates
  constructor
  case ascending =>
    rw [alternateItems_compile]
    exact hlatest.ascending
  case last_wins =>
    rw [alternateItems_compile]
    exact hlatest.mem_iff
  case several =>
    intro source
    have hnone : Alternate.Agree [] source := fun a ha => absurd ha List.not_mem_nil
    have hnoticed : (∃ r, .severalAlternates source r ∈
        (Alternate.items builders.alternates alternates).2) ↔ ¬Alternate.Agree alternates source :=
      Alternate.noticed_iff h.alternates hnone
    rw [exists_congr fun r => several_mem_compile_iff, hnoticed, Alternate.Agree]
    push Not
    rfl
  case dropped => rw [droppedLigatures_compile, Ligature.notices_items h.ligatures]
  case kept =>
    intro l
    rw [ligatureItems_compile]
    exact Ligature.mem_items_iff_not_dropped h.ligatures

/-- Records that go back and forth. -/
theorem settled_samples :
    (compile [⟨[1], 2⟩, ⟨[1], 3⟩, ⟨[1], 2⟩] [⟨4, 5⟩, ⟨4, 6⟩, ⟨4, 5⟩] []).2 =
        [.repeatedLigature [1] 3, .severalAlternates 4 6, .severalAlternates 4 5] ∧
      Settled [⟨[1], 2⟩, ⟨[1], 3⟩, ⟨[1], 2⟩] [⟨4, 5⟩, ⟨4, 6⟩, ⟨4, 5⟩]
        (compile [⟨[1], 2⟩, ⟨[1], 3⟩, ⟨[1], 2⟩] [⟨4, 5⟩, ⟨4, 6⟩, ⟨4, 5⟩] []) := by
  refine ⟨?_, settled_compile Builders.isLawful_standard _ _ _⟩
  decide +kernel

end Substitutions

end Gridface
