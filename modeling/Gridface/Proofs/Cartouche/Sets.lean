import Gridface.Proofs.Cartouche.Rules
import Gridface.Proofs.Substitution.Lookups
import Mathlib.Data.Finset.Card

/-!
# The sets of the cartouche rules

There are no rules or three, and three just for an opener, a closer and a word that all exist with
their forms. The words and their forms are as many and none is both, since a name tells its form,
the name of a form its word, and no id has two names.
-/

namespace Gridface

/-! ## The size of a set -/

namespace GlyphSet

/-- Without collisions a set is as large as what it is made from, repetitions aside. -/
theorem length_ofList_map {α : Type} [DecidableEq α] {f : α → GlyphId} {l : List α}
    (hf : ∀ a ∈ l, ∀ b ∈ l, f a = f b → a = b) :
    (ofList (l.map f)).ids.length = l.toFinset.card := by
  have hnodup : (ofList (l.map f)).ids.Nodup :=
    (ofList (l.map f)).ascending.imp fun hlt => Nat.ne_of_lt hlt
  have himage : (ofList (l.map f)).ids.toFinset = l.toFinset.image f := by
    ext id
    rw [List.mem_toFinset, Finset.mem_image]
    refine (mem_ofList (a := id)).trans ?_
    simp only [List.mem_map, List.mem_toFinset]
  rw [← List.toFinset_card_of_nodup hnodup, himage]
  refine Finset.card_image_of_injOn fun a ha b hb => ?_
  exact hf a (List.mem_toFinset.mp ha) b (List.mem_toFinset.mp hb)

end GlyphSet

namespace CartoucheStyle

variable {s : CartoucheStyle} {glyphs : List NamedId} {first last : String}

/-! ## Words by name -/

/-- A name of a word or a joiner that may stand between the glyphs named `first` and `last`. -/
def IsInner (s : CartoucheStyle) (first last name : String) : Prop :=
  (s.wordPrefix.toList <+: name.toList ∨ name ∈ s.joiners) ∧
    ¬s.suffix.toList <:+ name.toList ∧ name ≠ first ∧ name ≠ last

theorem isInner_iff {name : String} :
    s.IsInner first last name ↔ s.standsInside first last name = true := by
  rw [standsInside_iff, isSome_afterPrefix?_iff, ← Bool.not_eq_true, isFormName_iff]
  rfl

theorem mem_wordSet_iff_isNamed {id : GlyphId} :
    id ∈ s.wordSet glyphs first last ↔
      ∃ name, s.IsInner first last name ∧ IsNamed glyphs name id ∧
        s.formName name ∈ glyphs.map Prod.fst := by
  simp only [mem_wordSet_iff, mem_words_iff, isInner_iff, ← idNamed?_eq_some_iff,
    ← exists_idNamed?_iff]
  constructor
  · rintro ⟨form, name, hin, hname, hform⟩
    exact ⟨name, hin, hname, form, hform⟩
  · rintro ⟨name, hin, hname, form, hform⟩
    exact ⟨form, name, hin, hname, hform⟩

theorem mem_formSet_iff_isNamed {id : GlyphId} :
    id ∈ s.formSet glyphs first last ↔
      ∃ name, s.IsInner first last name ∧ name ∈ glyphs.map Prod.fst ∧
        IsNamed glyphs (s.formName name) id := by
  simp only [mem_formSet_iff, mem_words_iff, isInner_iff, ← idNamed?_eq_some_iff,
    ← exists_idNamed?_iff]
  constructor
  · rintro ⟨word, name, hin, hname, hform⟩
    exact ⟨name, hin, ⟨word, hname⟩, hform⟩
  · rintro ⟨name, hin, ⟨word, hname⟩, hform⟩
    exact ⟨word, name, hin, hname, hform⟩

theorem exists_mem_wordSet (h : s.words glyphs first last ≠ []) :
    ∃ id, id ∈ s.wordSet glyphs first last := by
  obtain ⟨⟨word, form⟩, hpair⟩ := List.exists_mem_of_ne_nil _ h
  exact ⟨word, mem_wordSet_iff.mpr ⟨form, hpair⟩⟩

theorem exists_mem_formSet (h : s.words glyphs first last ≠ []) :
    ∃ id, id ∈ s.formSet glyphs first last := by
  obtain ⟨⟨word, form⟩, hpair⟩ := List.exists_mem_of_ne_nil _ h
  exact ⟨form, mem_formSet_iff.mpr ⟨word, hpair⟩⟩

theorem words_ne_nil_iff :
    s.words glyphs first last ≠ [] ↔
      ∃ name ∈ glyphs.map Prod.fst, s.IsInner first last name ∧
        s.formName name ∈ glyphs.map Prod.fst := by
  constructor
  · intro h
    obtain ⟨id, hid⟩ := exists_mem_wordSet h
    obtain ⟨name, hin, hname, hform⟩ := mem_wordSet_iff_isNamed.mp hid
    exact ⟨name, exists_idNamed?_iff.mp ⟨id, idNamed?_eq_some_iff.mpr hname⟩, hin, hform⟩
  · rintro ⟨name, hname, hin, hform⟩
    obtain ⟨word, hname⟩ := exists_idNamed?_iff.mpr hname
    obtain ⟨form, hform⟩ := exists_idNamed?_iff.mpr hform
    exact List.ne_nil_of_mem (mem_words_iff.mpr ⟨name, isInner_iff.mp hin, hname, hform⟩)

/-- A word tells its name and with it its form, and so does a form: the pairs are as many as the
words and as many as the forms. -/
theorem length_wordSet (hids : (glyphs.map Prod.snd).Nodup) :
    (s.wordSet glyphs first last).ids.length = (s.formSet glyphs first last).ids.length := by
  have hword : ∀ a ∈ s.words glyphs first last, ∀ b ∈ s.words glyphs first last,
      a.1 = b.1 → a = b := by
    rintro ⟨word, form⟩ ha ⟨_, form'⟩ hb rfl
    obtain ⟨name, -, hname, hform⟩ := mem_words_iff.mp ha
    obtain ⟨name', -, hname', hform'⟩ := mem_words_iff.mp hb
    obtain rfl := idNamed?_inj hids hname hname'
    rw [Option.some.inj (hform.symm.trans hform')]
  have hform : ∀ a ∈ s.words glyphs first last, ∀ b ∈ s.words glyphs first last,
      a.2 = b.2 → a = b := by
    rintro ⟨word, form⟩ ha ⟨word', _⟩ hb rfl
    obtain ⟨name, -, hname, hform⟩ := mem_words_iff.mp ha
    obtain ⟨name', -, hname', hform'⟩ := mem_words_iff.mp hb
    obtain rfl := formName_injective (idNamed?_inj hids hform hform')
    rw [Option.some.inj (hname.symm.trans hname')]
  exact (GlyphSet.length_ofList_map hword).trans (GlyphSet.length_ofList_map hform).symm

/-! ## When there are rules -/

/-- The opener and the closer are configured, and they and some word exist with their forms. -/
def HasRules (s : CartoucheStyle) (glyphs : List NamedId) : Prop :=
  ∃ first last, s.opener = some first ∧ s.closer = some last ∧
    (∀ name ∈ [first, s.formName first, last, s.formName last], name ∈ glyphs.map Prod.fst) ∧
    ∃ name ∈ glyphs.map Prod.fst, s.IsInner first last name ∧
      s.formName name ∈ glyphs.map Prod.fst

theorem exists_frames_iff :
    (∃ frame, s.Frames glyphs first last frame) ↔
      ∀ name ∈ [first, s.formName first, last, s.formName last], name ∈ glyphs.map Prod.fst := by
  simp only [List.forall_mem_cons, List.not_mem_nil, false_imp_iff, implies_true, and_true,
    ← exists_idNamed?_iff]
  constructor
  · rintro ⟨frame, hf⟩
    exact ⟨⟨_, hf.opener⟩, ⟨_, hf.openerForm⟩, ⟨_, hf.closer⟩, hf.closerForm⟩
  · rintro ⟨⟨opener, ho⟩, ⟨openerForm, hof⟩, ⟨closer, hc⟩, hcf⟩
    exact ⟨⟨opener, openerForm, closer⟩, ho, hof, hc, hcf⟩

theorem rules_ne_nil_iff : (s.rules glyphs).1 ≠ [] ↔ s.HasRules glyphs := by
  constructor
  · intro h
    obtain ⟨first, last, frame, hfirst, hlast, hf, hwords, -⟩ := rules_of_ne_nil h
    exact ⟨first, last, hfirst, hlast, exists_frames_iff.mp ⟨frame, hf⟩, words_ne_nil_iff.mp hwords⟩
  · rintro ⟨first, last, hfirst, hlast, hframe, hword⟩
    obtain ⟨frame, hf⟩ := exists_frames_iff.mpr hframe
    rw [rules_eq_chainRules hfirst hlast hf (words_ne_nil_iff.mpr hword)]
    exact List.cons_ne_nil _ _

theorem length_rules (h : (s.rules glyphs).1 ≠ []) : (s.rules glyphs).1.length = 3 := by
  obtain ⟨first, last, frame, -, -, -, -, hrules⟩ := rules_of_ne_nil h
  rw [hrules]
  rfl

/-! ## What the rules are about -/

theorem canApply_of_mem_chainRules {frame : FrameIds} {words forms : GlyphSet}
    (hwords : ∃ id, id ∈ words) (hforms : ∃ id, id ∈ forms) {r : ContextRule}
    (hr : r ∈ chainRules frame words forms) : r.CanApply := by
  have hadded : ∀ (id : GlyphId) (set : GlyphSet), ∃ a, a ∈ set.insert id :=
    fun id set => ⟨id, GlyphSet.mem_insert.mpr (Or.inl rfl)⟩
  have hsingle : ∀ id : GlyphId, ∃ a, a ∈ GlyphSet.ofList [id] := fun id => hadded id GlyphSet.empty
  simp only [chainRules, List.mem_cons, List.not_mem_nil, or_false] at hr
  rcases hr with rfl | rfl | rfl
  · refine ⟨hwords, fun set hset => ?_⟩
    simp only [List.cons_append, List.nil_append, List.mem_cons, List.not_mem_nil,
      or_false] at hset
    rcases hset with rfl | rfl
    · exact hadded _ _
    · exact hadded _ _
  · refine ⟨hsingle _, fun set hset => ?_⟩
    obtain rfl := List.mem_singleton.mp hset
    exact hwords
  · refine ⟨hsingle _, fun set hset => ?_⟩
    obtain rfl := List.mem_singleton.mp hset
    exact hforms

/-- The ids of the opener, the closer, the words and their forms, by name and kept apart. -/
structure RuleSets (s : CartoucheStyle) (glyphs : List NamedId) (first last : String)
    (frame : FrameIds) (closerForm : GlyphId) (words forms : GlyphSet) : Prop where
  opener_named : IsNamed glyphs first frame.opener
  openerForm_named : IsNamed glyphs (s.formName first) frame.openerForm
  closer_named : IsNamed glyphs last frame.closer
  closerForm_named : IsNamed glyphs (s.formName last) closerForm
  mem_words_iff : ∀ id, id ∈ words ↔ ∃ name, s.IsInner first last name ∧
    IsNamed glyphs name id ∧ s.formName name ∈ glyphs.map Prod.fst
  mem_forms_iff : ∀ id, id ∈ forms ↔ ∃ name, s.IsInner first last name ∧
    name ∈ glyphs.map Prod.fst ∧ IsNamed glyphs (s.formName name) id
  same_size : words.ids.length = forms.ids.length
  disjoint : ∀ id ∈ words, id ∉ forms
  opener_not_word : frame.opener ∉ words
  closer_not_word : frame.closer ∉ words
  openerForm_not_form : frame.openerForm ∉ forms
  closerForm_not_form : closerForm ∉ forms

theorem Frames.ruleSets {frame : FrameIds} (hf : s.Frames glyphs first last frame)
    (hids : (glyphs.map Prod.snd).Nodup) :
    ∃ closerForm, s.RuleSets glyphs first last frame closerForm (s.wordSet glyphs first last)
      (s.formSet glyphs first last) := by
  obtain ⟨closerForm, hcloserForm⟩ := hf.closerForm
  refine ⟨closerForm, ?_⟩
  constructor
  case opener_named => exact idNamed?_eq_some_iff.mp hf.opener
  case openerForm_named => exact idNamed?_eq_some_iff.mp hf.openerForm
  case closer_named => exact idNamed?_eq_some_iff.mp hf.closer
  case closerForm_named => exact idNamed?_eq_some_iff.mp hcloserForm
  case mem_words_iff => exact fun id => mem_wordSet_iff_isNamed
  case mem_forms_iff => exact fun id => mem_formSet_iff_isNamed
  case same_size => exact length_wordSet hids
  case disjoint => exact fun id => not_mem_formSet_of_mem_wordSet hids
  case opener_not_word => exact not_mem_wordSet hids hf.opener (standsInside_opener first last)
  case closer_not_word => exact not_mem_wordSet hids hf.closer (standsInside_closer first last)
  case openerForm_not_form =>
    exact not_mem_formSet hids hf.openerForm (standsInside_opener first last)
  case closerForm_not_form =>
    exact not_mem_formSet hids hcloserForm (standsInside_closer first last)

/-- There are no rules or three: three just if the opener, the closer and a word exist with their
forms. Then the rules are about the words that may stand inside and have a form, and about these
forms; every rule can apply, and all their ids are ids of the glyphs. -/
theorem rules_sets (s : CartoucheStyle) (glyphs : List NamedId)
    (hids : (glyphs.map Prod.snd).Nodup) :
    let rules := (s.rules glyphs).1
    (rules = [] ∨ rules.length = 3) ∧
    (rules.length = 3 ↔ s.HasRules glyphs) ∧
    (rules.length = 3 → ∃ first last frame closerForm words forms,
      s.opener = some first ∧ s.closer = some last ∧
      rules = [
        { backtrack := [forms.insert frame.openerForm]
          input := words
          lookahead := [words.insert frame.closer] },
        { backtrack := [], input := GlyphSet.ofList [frame.opener], lookahead := [words] },
        { backtrack := [forms], input := GlyphSet.ofList [frame.closer], lookahead := [] }] ∧
      s.RuleSets glyphs first last frame closerForm words forms ∧
      (∀ r ∈ rules, r.CanApply) ∧
      (∀ index, Substitutions.contextLookup? rules index = some (.contextual rules index)) ∧
      ∀ r ∈ rules, ∀ set ∈ r.input :: (r.backtrack ++ r.lookahead), ∀ id ∈ set,
        id ∈ glyphs.map Prod.snd) := by
  intro rules
  have hnil : rules.length = 3 → rules ≠ [] := by
    intro hlength hnil
    rw [hnil] at hlength
    cases hlength
  refine ⟨or_iff_not_imp_left.mpr length_rules,
    ⟨fun h => rules_ne_nil_iff.mp (hnil h), fun h => length_rules (rules_ne_nil_iff.mpr h)⟩,
    fun hlength => ?_⟩
  obtain ⟨first, last, frame, hfirst, hlast, hf, hwords, hrules⟩ := rules_of_ne_nil (hnil hlength)
  obtain ⟨closerForm, hsets⟩ := hf.ruleSets hids
  have happly : ∀ r ∈ (s.rules glyphs).1, r.CanApply := by
    rw [hrules]
    exact fun r =>
      canApply_of_mem_chainRules (exists_mem_wordSet hwords) (exists_mem_formSet hwords)
  refine ⟨first, last, frame, closerForm, _, _, hfirst, hlast, hrules, hsets, happly,
    Substitutions.contextLookup?_of_canApply (hnil hlength) happly,
    fun r hr set hset id hid => ?_⟩
  obtain ⟨name, hname⟩ := exists_name_of_mem_rule hr hset hid
  exact List.mem_map_of_mem hname

/-- Glyphs of which two are named `tp.a`: the second one counts. -/
def twiceNamed : List NamedId :=
  [("tp.a", 5), ("space", 1), ("space.cart", 2), ("tp.start", 3), ("tp.end", 4),
    ("tp.start.cart", 8), ("tp.end.cart", 9), ("tp.a", 11), ("tp.a.cart", 10)]

/-- A style with a joiner. -/
def joiningStyle : CartoucheStyle :=
  { opener := some "tp.start", closer := some "tp.end", joiners := ["space"] }

theorem rules_sets_twiceNamed :
    (twiceNamed.map Prod.snd).Nodup ∧ joiningStyle.HasRules twiceNamed ∧
      ∃ frame closerForm, joiningStyle.RuleSets twiceNamed "tp.start" "tp.end" frame closerForm
        (GlyphSet.ofList [1, 11]) (GlyphSet.ofList [2, 10]) := by
  have hids : (twiceNamed.map Prod.snd).Nodup := by decide
  have hr : (joiningStyle.rules twiceNamed).1 =
      chainRules ⟨3, 8, 4⟩ (GlyphSet.ofList [1, 11]) (GlyphSet.ofList [2, 10]) := by
    decide +kernel
  have hlength : (joiningStyle.rules twiceNamed).1.length = 3 := congrArg List.length hr
  obtain ⟨-, hiff, hsets⟩ := rules_sets joiningStyle twiceNamed hids
  obtain ⟨first, last, frame, closerForm, words, forms, hfirst, hlast, hrules, hnamed, -⟩ :=
    hsets hlength
  obtain rfl : "tp.start" = first := Option.some.inj hfirst
  obtain rfl : "tp.end" = last := Option.some.inj hlast
  rw [hr] at hrules
  simp only [chainRules, List.cons.injEq, ContextRule.mk.injEq, and_true] at hrules
  obtain ⟨⟨-, rfl, -⟩, -, rfl, -⟩ := hrules
  exact ⟨hids, hiff.mp hlength, frame, closerForm, hnamed⟩

end CartoucheStyle

end Gridface
