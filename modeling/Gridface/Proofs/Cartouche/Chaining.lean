import Gridface.Proofs.Cartouche.Rules
import Gridface.Proofs.Shaping

/-!
# A run of words becomes a cartouche

Shaping a text by the cartouche rules puts into its form every word that follows an opener with
nothing but words between and that has a word or the closer next. What a rule finds before a glyph
depends on all that was written since the opener, so the positions are compared one after the other.
-/

namespace Gridface

/-! ## What is switched -/

/-- A cartouche is open at position `i`: an opener stands before it, with nothing but words between.
-/
def OpenAt (opener : GlyphId) (words : GlyphSet) (text : List GlyphId) (i : Nat) : Prop :=
  ∃ j < i, text[j]? = some opener ∧ ∀ k, j < k → k < i → words.HoldsAt text k

/-- The glyph `g` at position `i` is to be put into its form. -/
def Switched (opener closer : GlyphId) (words : GlyphSet) (text : List GlyphId) (i : Nat)
    (g : GlyphId) : Prop :=
  (g ∈ words ∧ OpenAt opener words text i ∧
    (words.HoldsAt text (i + 1) ∨ text[i + 1]? = some closer)) ∨
  (g = opener ∧ words.HoldsAt text (i + 1)) ∨
  (g = closer ∧ ∃ k, k + 1 = i ∧ OpenAt opener words text k ∧ words.HoldsAt text k)

variable {opener closer : GlyphId} {words : GlyphSet} {text : List GlyphId}

theorem not_openAt_zero : ¬OpenAt opener words text 0 := by
  rintro ⟨j, hj, -⟩
  exact absurd hj (Nat.not_lt_zero j)

theorem openAt_succ {i : Nat} :
    OpenAt opener words text (i + 1) ↔
      text[i]? = some opener ∨ (words.HoldsAt text i ∧ OpenAt opener words text i) := by
  constructor
  · rintro ⟨j, hj, ho, hbetween⟩
    rcases Nat.lt_succ_iff_lt_or_eq.mp hj with hlt | rfl
    · exact Or.inr ⟨hbetween i hlt (Nat.lt_succ_self i), j, hlt, ho,
        fun k hjk hki => hbetween k hjk (Nat.lt_succ_of_lt hki)⟩
    · exact Or.inl ho
  · rintro (ho | ⟨hi, j, hj, ho, hbetween⟩)
    · exact ⟨i, Nat.lt_succ_self i, ho, fun k hik hki => by omega⟩
    · refine ⟨j, Nat.lt_succ_of_lt hj, ho, fun k hjk hki => ?_⟩
      rcases Nat.lt_succ_iff_lt_or_eq.mp hki with hlt | rfl
      · exact hbetween k hjk hlt
      · exact hi

/-- At a known glyph, to hold a word is to be one. -/
theorem GlyphSet.holdsAt_iff {s : GlyphSet} {i : Nat} {g : GlyphId} (hg : text[i]? = some g) :
    s.HoldsAt text i ↔ g ∈ s := by
  constructor
  · rintro ⟨h, hh, he⟩
    cases hg.symm.trans he
    exact hh
  · intro h
    exact ⟨g, h, hg⟩

/-! ## The three rules at a position -/

theorem GlyphSet.fits_singleton {s : GlyphSet} {glyphs : List GlyphId} :
    GlyphSet.fits [s] glyphs = true ↔ ∃ g ∈ s, glyphs.head? = some g := by
  cases glyphs with
  | nil => simp [fits]
  | cons g glyphs => simp [fits]

namespace CartoucheStyle

/-- The glyphs that the rules are about are kept apart, and `m` puts each of them into its form. -/
structure Chain (frame : FrameIds) (words forms : GlyphSet) (m : GlyphId → GlyphId) : Prop where
  opener_not_word : frame.opener ∉ words
  closer_not_word : frame.closer ∉ words
  closer_ne_opener : frame.closer ≠ frame.opener
  opener_form : m frame.opener = frame.openerForm
  openerForm_not_form : frame.openerForm ∉ forms
  openerForm_ne : frame.openerForm ≠ frame.opener
  word_form : ∀ w ∈ words, m w ∈ forms
  word_not_form : ∀ w ∈ words, w ∉ forms
  closerForm_not_form : m frame.closer ∉ forms
  closerForm_ne_openerForm : m frame.closer ≠ frame.openerForm
  closerForm_ne : m frame.closer ≠ frame.closer

variable {frame : FrameIds} {forms : GlyphSet} {m : GlyphId → GlyphId}

theorem appliesAt_chainRules {before after : List GlyphId} {g : GlyphId} :
    (∃ r ∈ chainRules frame words forms, r.appliesAt before g after = true) ↔
      (g ∈ words ∧
        (before.head? = some frame.openerForm ∨ ∃ b ∈ forms, before.head? = some b) ∧
        (after.head? = some frame.closer ∨ ∃ a ∈ words, after.head? = some a)) ∨
      (g = frame.opener ∧ ∃ a ∈ words, after.head? = some a) ∨
      (g = frame.closer ∧ ∃ b ∈ forms, before.head? = some b) := by
  simp only [chainRules, List.mem_cons, List.not_mem_nil, or_false, exists_eq_or_imp,
    exists_eq_left, ContextRule.appliesAt, Bool.and_eq_true, decide_eq_true_eq,
    GlyphSet.fits_singleton, GlyphSet.mem_insert, GlyphSet.mem_ofList, GlyphSet.fits, and_true,
    true_and, and_assoc]

/-! ## The whole text -/

/-- The text as the rules write it. -/
def chained (frame : FrameIds) (words forms : GlyphSet) (m : GlyphId → GlyphId)
    (text : List GlyphId) : List GlyphId :=
  ContextRule.shape (chainRules frame words forms) m [] text

/-- What stands at a position is as it has to be. -/
def WrittenAt (frame : FrameIds) (words forms : GlyphSet) (m : GlyphId → GlyphId)
    (text : List GlyphId) (i : Nat) (g : GlyphId) : Prop :=
  (Switched frame.opener frame.closer words text i g →
    (chained frame words forms m text)[i]? = some (m g)) ∧
  (¬Switched frame.opener frame.closer words text i g →
    (chained frame words forms m text)[i]? = some g)

/-- After a position that is written as it has to be, a form stands before a word or the closer only
where the cartouche is open. -/
theorem Chain.form_written (h : Chain frame words forms m)
    (hclean : ∀ g ∈ text, g ∉ forms ∧ g ≠ frame.openerForm) {k : Nat} {p : GlyphId}
    (hp : text[k]? = some p) (hw : WrittenAt frame words forms m text k p)
    (hnext : words.HoldsAt text (k + 1) ∨ text[k + 1]? = some frame.closer) :
    (∃ b ∈ forms, (chained frame words forms m text)[k]? = some b) ↔
      words.HoldsAt text k ∧ OpenAt frame.opener words text k := by
  have hclean := hclean p (List.mem_of_getElem? hp)
  rw [GlyphSet.holdsAt_iff hp]
  by_cases hs : Switched frame.opener frame.closer words text k p
  · rw [hw.1 hs]
    rcases hs with ⟨hword, hopen, -⟩ | ⟨rfl, -⟩ | ⟨rfl, -⟩
    · exact ⟨fun _ => ⟨hword, hopen⟩, fun _ => ⟨_, h.word_form p hword, rfl⟩⟩
    · constructor
      · rintro ⟨b, hb, he⟩
        cases he
        exact absurd (h.opener_form ▸ hb) h.openerForm_not_form
      · rintro ⟨hword, -⟩
        exact absurd hword h.opener_not_word
    · constructor
      · rintro ⟨b, hb, he⟩
        cases he
        exact absurd hb h.closerForm_not_form
      · rintro ⟨hword, -⟩
        exact absurd hword h.closer_not_word
  · rw [hw.2 hs]
    constructor
    · rintro ⟨b, hb, he⟩
      cases he
      exact absurd hb hclean.1
    · rintro ⟨hword, hopen⟩
      exact absurd (Or.inl ⟨hword, hopen, hnext⟩) hs

/-- The form of the opener is written just where an opener stands before a word. -/
theorem Chain.openerForm_written (h : Chain frame words forms m)
    (hclean : ∀ g ∈ text, g ∉ forms ∧ g ≠ frame.openerForm) {k : Nat} {p : GlyphId}
    (hp : text[k]? = some p) (hw : WrittenAt frame words forms m text k p)
    (hnext : words.HoldsAt text (k + 1)) :
    (chained frame words forms m text)[k]? = some frame.openerForm ↔
      text[k]? = some frame.opener := by
  have hclean := hclean p (List.mem_of_getElem? hp)
  by_cases hs : Switched frame.opener frame.closer words text k p
  · rw [hw.1 hs, hp]
    rcases hs with ⟨hword, -⟩ | ⟨rfl, -⟩ | ⟨rfl, -⟩
    · constructor
      · intro he
        exact absurd (Option.some.inj he ▸ h.word_form p hword) h.openerForm_not_form
      · intro he
        cases he
        exact absurd hword h.opener_not_word
    · simp [h.opener_form]
    · constructor
      · intro he
        exact absurd (Option.some.inj he) h.closerForm_ne_openerForm
      · intro he
        exact absurd (Option.some.inj he) h.closer_ne_opener
  · rw [hw.2 hs, hp]
    constructor
    · intro he
      exact absurd (Option.some.inj he) hclean.2
    · intro he
      exact absurd (Or.inr (Or.inl ⟨Option.some.inj he, hnext⟩)) hs

/-- A rule applies to the glyph `g` at position `i`. -/
def AppliesAt (frame : FrameIds) (words forms : GlyphSet) (m : GlyphId → GlyphId)
    (text : List GlyphId) (i : Nat) (g : GlyphId) : Prop :=
  ∃ r ∈ chainRules frame words forms,
    r.appliesAt ((chained frame words forms m text).take i).reverse g (text.drop (i + 1)) = true

theorem Chain.applies_zero {g : GlyphId} :
    AppliesAt frame words forms m text 0 g ↔
      Switched frame.opener frame.closer words text 0 g := by
  simp [AppliesAt, appliesAt_chainRules, Switched, not_openAt_zero, GlyphSet.HoldsAt]

theorem Chain.applies_succ (h : Chain frame words forms m)
    (hclean : ∀ g ∈ text, g ∉ forms ∧ g ≠ frame.openerForm) {k : Nat} {p g : GlyphId}
    (hp : text[k]? = some p) (hw : WrittenAt frame words forms m text k p)
    (hg : text[k + 1]? = some g) :
    AppliesAt frame words forms m text (k + 1) g ↔
      Switched frame.opener frame.closer words text (k + 1) g := by
  have hlt : k < (chained frame words forms m text).length := by
    rw [chained, ContextRule.length_shape]
    exact (List.getElem?_eq_some_iff.mp hp).1
  have hbefore : ((chained frame words forms m text).take (k + 1)).reverse.head? =
      (chained frame words forms m text)[k]? := by
    rw [List.head?_reverse, List.getLast?_take]
    simp [hlt]
  rw [AppliesAt, appliesAt_chainRules, hbefore, List.head?_drop]
  refine or_congr (and_congr_right fun hword => and_congr ?_ or_comm)
    (or_congr Iff.rfl (and_congr_right fun hcloser => ?_))
  · have hnext : words.HoldsAt text (k + 1) := ⟨g, hword, hg⟩
    rw [h.openerForm_written hclean hp hw hnext, h.form_written hclean hp hw (Or.inl hnext),
      openAt_succ]
  · rw [h.form_written hclean hp hw (Or.inr (hcloser ▸ hg))]
    constructor
    · rintro ⟨hword, hopen⟩
      exact ⟨k, rfl, hopen, hword⟩
    · rintro ⟨k', hk, hopen, hword⟩
      cases hk
      exact ⟨hword, hopen⟩

/-- Every position is written as it has to be: the induction is on the position, since the rules
look back at what was written just before. -/
theorem Chain.writtenAt (h : Chain frame words forms m)
    (hclean : ∀ g ∈ text, g ∉ forms ∧ g ≠ frame.openerForm) (i : Nat) :
    ∀ g, text[i]? = some g → WrittenAt frame words forms m text i g := by
  have hstep : ∀ i g, text[i]? = some g → (AppliesAt frame words forms m text i g ↔
      Switched frame.opener frame.closer words text i g) →
      WrittenAt frame words forms m text i g := by
    intro i g hg happly
    have hw := ContextRule.getElem?_shape (chainRules frame words forms) m [] text i
    rw [hg, Option.map_some, List.append_nil, ContextRule.write_eq_ite] at hw
    constructor
    · intro hs
      exact hw.trans (congrArg some (if_pos (happly.mpr hs)))
    · intro hs
      exact hw.trans (congrArg some (if_neg fun ha => hs (happly.mp ha)))
  induction i with
  | zero =>
      intro g hg
      exact hstep 0 g hg Chain.applies_zero
  | succ k ih =>
      intro g hg
      have hlt : k < text.length := Nat.lt_of_succ_lt (List.getElem?_eq_some_iff.mp hg).1
      have hp : text[k]? = some text[k] := List.getElem?_eq_getElem hlt
      exact hstep (k + 1) g hg (h.applies_succ hclean hp (ih _ hp) hg)

/-- A glyph is replaced just where it is to be put into its form, and by nothing else. -/
theorem Chain.replaced_iff (h : Chain frame words forms m)
    (hclean : ∀ g ∈ text, g ∉ forms ∧ g ≠ frame.openerForm) {i : Nat} {g : GlyphId}
    (hg : text[i]? = some g) :
    (chained frame words forms m text)[i]? ≠ some g ↔
      Switched frame.opener frame.closer words text i g := by
  have hw := h.writtenAt hclean i g hg
  constructor
  · intro hne
    by_contra hs
    exact hne (hw.2 hs)
  · intro hs he
    have hsame : m g = g := Option.some.inj ((hw.1 hs).symm.trans he)
    rcases hs with ⟨hword, -⟩ | ⟨rfl, -⟩ | ⟨rfl, -⟩
    · exact h.word_not_form g hword (hsame ▸ h.word_form g hword)
    · exact h.openerForm_ne (h.opener_form ▸ hsame)
    · exact h.closerForm_ne hsame

/-- Of the three cases of `Switched` a glyph can only be in its own. -/
theorem Chain.switched_iff (h : Chain frame words forms m) (text : List GlyphId) (i : Nat)
    (g : GlyphId) :
    (g ∈ words → (Switched frame.opener frame.closer words text i g ↔
      OpenAt frame.opener words text i ∧
        (words.HoldsAt text (i + 1) ∨ text[i + 1]? = some frame.closer))) ∧
    (g = frame.opener → (Switched frame.opener frame.closer words text i g ↔
      words.HoldsAt text (i + 1))) ∧
    (g = frame.closer → (Switched frame.opener frame.closer words text i g ↔
      ∃ k, k + 1 = i ∧ OpenAt frame.opener words text k ∧ words.HoldsAt text k)) := by
  refine ⟨fun hword => ?_, ?_, ?_⟩
  · have hopener : g ≠ frame.opener := fun he => h.opener_not_word (he ▸ hword)
    have hcloser : g ≠ frame.closer := fun he => h.closer_not_word (he ▸ hword)
    simp [Switched, hword, hopener, hcloser]
  · rintro rfl
    simp [Switched, h.opener_not_word, h.closer_ne_opener.symm]
  · rintro rfl
    simp [Switched, h.closer_not_word, h.closer_ne_opener]

/-! ## The glyphs of the rules are kept apart -/

variable {s : CartoucheStyle} {glyphs : List NamedId} {first last : String}

/-- Distinct ids keep the opener, the closer, the words and their forms apart, because their names
are: no word is named like a form, and the name of a form tells whose it is. -/
theorem Frames.chain (hf : s.Frames glyphs first last frame) (hids : (glyphs.map Prod.snd).Nodup)
    (hne : first ≠ last) (hwords : s.words glyphs first last ≠ [])
    (hm : ∀ p ∈ glyphs, p.2 ∈ s.wordSet glyphs first last ∨ p.2 = frame.opener ∨
      p.2 = frame.closer → idNamed? glyphs (s.formName p.1) = some (m p.2)) :
    Chain frame (s.wordSet glyphs first last) (s.formSet glyphs first last) m := by
  have hword : ∀ w, w ∈ s.wordSet glyphs first last →
      ∃ name form, s.standsInside first last name = true ∧ idNamed? glyphs name = some w ∧
        idNamed? glyphs (s.formName name) = some form ∧ (w, form) ∈ s.words glyphs first last := by
    intro w hw
    obtain ⟨form, hp⟩ := mem_wordSet_iff.mp hw
    obtain ⟨name, hin, hname, hform⟩ := mem_words_iff.mp hp
    exact ⟨name, form, hin, hname, hform, hp⟩
  -- some name is not that of a form, so the suffix is not empty
  obtain ⟨plain, hplain⟩ : ∃ name, s.isFormName name = false := by
    obtain ⟨⟨word, form⟩, hp⟩ := List.exists_mem_of_ne_nil _ hwords
    obtain ⟨name, hin, -⟩ := mem_words_iff.mp hp
    exact ⟨name, (standsInside_iff.mp hin).2.1⟩
  have hopener : m frame.opener = frame.openerForm := by
    have he := hm (first, frame.opener) (mem_of_idNamed? hf.opener) (Or.inr (Or.inl rfl))
    exact Option.some.inj (he.symm.trans hf.openerForm)
  have hcloser : idNamed? glyphs (s.formName last) = some (m frame.closer) :=
    hm (last, frame.closer) (mem_of_idNamed? hf.closer) (Or.inr (Or.inr rfl))
  constructor
  case opener_not_word => exact not_mem_wordSet hids hf.opener (standsInside_opener first last)
  case closer_not_word => exact not_mem_wordSet hids hf.closer (standsInside_closer first last)
  case closer_ne_opener =>
    intro he
    exact hne (idNamed?_inj hids hf.opener (he ▸ hf.closer))
  case opener_form => exact hopener
  case openerForm_not_form =>
    exact not_mem_formSet hids hf.openerForm (standsInside_opener first last)
  case openerForm_ne =>
    intro he
    exact formName_ne hplain (idNamed?_inj hids hf.openerForm (he ▸ hf.opener))
  case word_form =>
    intro w hw
    obtain ⟨name, form, -, hname, hform, hp⟩ := hword w hw
    have he := hm (name, w) (mem_of_idNamed? hname) (Or.inl hw)
    rw [← Option.some.inj (hform.symm.trans he)]
    exact mem_formSet_iff.mpr ⟨w, hp⟩
  case word_not_form => exact fun w => not_mem_formSet_of_mem_wordSet hids
  case closerForm_not_form =>
    exact not_mem_formSet hids hcloser (standsInside_closer first last)
  case closerForm_ne_openerForm =>
    intro he
    exact hne (formName_injective (idNamed?_inj hids hf.openerForm (he ▸ hcloser)))
  case closerForm_ne =>
    intro he
    exact formName_ne hplain (idNamed?_inj hids hcloser (he.symm ▸ hf.closer))

/-! ## A text shaped by the cartouche rules -/

/-- Between an opener and the closer every word is put into its form. A word is replaced just where
an opener stands before it with nothing but words between and a word or the closer comes next; an
opener just where a word comes next; the closer just after a word that is replaced. Nothing else
changes. -/
theorem shape_cartouche_rules (s : CartoucheStyle) (glyphs : List NamedId)
    (hids : (glyphs.map Prod.snd).Nodup) (hends : s.opener ≠ s.closer)
    (r₁ r₂ r₃ : ContextRule) (hr : (s.rules glyphs).1 = [r₁, r₂, r₃]) :
    ∃ opener closer forms,
      r₂.input = GlyphSet.ofList [opener] ∧ r₃.input = GlyphSet.ofList [closer] ∧
      r₃.backtrack = [forms] ∧
      ∀ m : GlyphId → GlyphId,
        (∀ p ∈ glyphs, p.2 ∈ r₁.input ∨ p.2 = opener ∨ p.2 = closer →
          idNamed? glyphs (s.formName p.1) = some (m p.2)) →
        ∀ text : List GlyphId, (∀ g ∈ text, g ∉ forms ∧ g ≠ m opener) →
          let shaped := ContextRule.shape [r₁, r₂, r₃] m [] text
          shaped.length = text.length ∧
          ∀ i g, text[i]? = some g →
            (g ∈ r₁.input → (shaped[i]? ≠ some g ↔ OpenAt opener r₁.input text i ∧
              (r₁.input.HoldsAt text (i + 1) ∨ text[i + 1]? = some closer))) ∧
            (g = opener → (shaped[i]? ≠ some g ↔ r₁.input.HoldsAt text (i + 1))) ∧
            (g = closer → (shaped[i]? ≠ some g ↔ ∃ k, k + 1 = i ∧
              OpenAt opener r₁.input text k ∧ r₁.input.HoldsAt text k)) ∧
            (shaped[i]? ≠ some g →
              (g ∈ r₁.input ∨ g = opener ∨ g = closer) ∧ shaped[i]? = some (m g)) := by
  have hnil : (s.rules glyphs).1 ≠ [] := by
    rw [hr]
    exact List.cons_ne_nil _ _
  obtain ⟨first, last, frame, hfirst, hlast, hf, hwords, hrules⟩ := rules_of_ne_nil hnil
  have hne : first ≠ last := by
    intro he
    exact hends (by rw [hfirst, hlast, he])
  rw [hr] at hrules
  obtain ⟨rfl, rfl, rfl⟩ : r₁ = _ ∧ r₂ = _ ∧ r₃ = _ := by simpa [chainRules] using hrules
  refine ⟨frame.opener, frame.closer, _, rfl, rfl, rfl, fun m hm text hclean => ?_⟩
  have hchain := hf.chain hids hne hwords hm
  rw [hchain.opener_form] at hclean
  refine ⟨ContextRule.length_shape [] text, fun i g hg => ?_⟩
  have hreplaced := hchain.replaced_iff hclean hg
  obtain ⟨hword, hopener, hcloser⟩ := hchain.switched_iff text i g
  refine ⟨fun h => hreplaced.trans (hword h), fun h => hreplaced.trans (hopener h),
    fun h => hreplaced.trans (hcloser h), fun hne => ?_⟩
  have hswitched := hreplaced.mp hne
  refine ⟨?_, (hchain.writtenAt hclean i g hg).1 hswitched⟩
  rcases hswitched with ⟨h, -⟩ | ⟨h, -⟩ | ⟨h, -⟩
  · exact Or.inl h
  · exact Or.inr (Or.inl h)
  · exact Or.inr (Or.inr h)

/-- Some named glyphs: a joiner, an opener, a closer, a word, their forms, and a glyph without one.
-/
def sampleGlyphs : List NamedId :=
  [("space", 1), ("space.cart", 2), ("tp.start", 3), ("tp.end", 4), ("tp.a", 5), ("tp.b", 6),
    ("tp.start.cart", 8), ("tp.end.cart", 9), ("tp.a.cart", 10)]

/-- The names by which the sample glyphs begin and end a cartouche. -/
def sampleStyle : CartoucheStyle :=
  { opener := some "tp.start", closer := some "tp.end", joiners := ["space"] }

/-- The forms of the sample glyphs. -/
def sampleForm (g : GlyphId) : GlyphId :=
  if g = 1 then 2 else if g = 3 then 8 else if g = 4 then 9 else if g = 5 then 10 else g

theorem shape_sampleGlyphs :
    (sampleStyle.rules sampleGlyphs).1 =
      chainRules ⟨3, 8, 4⟩ (GlyphSet.ofList [1, 5]) (GlyphSet.ofList [2, 10]) ∧
    (∀ g ∈ [3, 5, 1, 5, 4, 5], g ∉ GlyphSet.ofList [2, 10] ∧ g ≠ sampleForm 3) ∧
    OpenAt 3 (GlyphSet.ofList [1, 5]) [3, 5, 1, 5, 4, 5] 3 ∧
    (ContextRule.shape (sampleStyle.rules sampleGlyphs).1 sampleForm [] [3, 5, 1, 5, 4, 5])[3]? =
      some 10 := by
  have hr : (sampleStyle.rules sampleGlyphs).1 =
      chainRules ⟨3, 8, 4⟩ (GlyphSet.ofList [1, 5]) (GlyphSet.ofList [2, 10]) := by decide +kernel
  have hclean : ∀ g ∈ [3, 5, 1, 5, 4, 5], g ∉ GlyphSet.ofList [2, 10] ∧ g ≠ sampleForm 3 := by
    decide
  have hopen : OpenAt 3 (GlyphSet.ofList [1, 5]) [3, 5, 1, 5, 4, 5] 3 := by
    refine ⟨0, by decide, rfl, fun k hk hk' => ?_⟩
    obtain rfl | rfl : k = 1 ∨ k = 2 := by omega
    · exact ⟨5, by decide, rfl⟩
    · exact ⟨1, by decide, rfl⟩
  refine ⟨hr, hclean, hopen, ?_⟩
  obtain ⟨opener, closer, forms, h₂, h₃, hforms, hall⟩ :=
    shape_cartouche_rules sampleStyle sampleGlyphs (by decide) (by decide) _ _ _ hr
  obtain rfl : opener = 3 := (List.cons.inj (congrArg GlyphSet.ids h₂)).1.symm
  obtain rfl : closer = 4 := (List.cons.inj (congrArg GlyphSet.ids h₃)).1.symm
  obtain rfl : forms = GlyphSet.ofList [2, 10] := (List.cons.inj hforms).1.symm
  obtain ⟨-, hat⟩ := hall sampleForm (by decide +kernel) [3, 5, 1, 5, 4, 5] hclean
  obtain ⟨hword, -, -, hform⟩ := hat 3 5 rfl
  rw [hr]
  exact (hform ((hword (by decide)).mpr ⟨hopen, Or.inr rfl⟩)).2

end CartoucheStyle

end Gridface
