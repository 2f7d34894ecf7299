import Gridface.Proofs.Cartouche.Names
import Gridface.Substitution.Cartouche
import Mathlib.Data.List.Nodup

/-!
# The glyphs of the cartouche rules

Which names stand behind the ids in the cartouche rules. With distinct ids the words, the forms, the
opener and the closer are kept apart by their names.
-/

namespace Gridface

variable {s : CartoucheStyle} {glyphs : List NamedId}

/-! ## Ids by name -/

/-- The id is that of the last glyph with the given name. -/
def IsNamed (glyphs : List NamedId) (name : String) (id : GlyphId) : Prop :=
  ∃ before after, glyphs = before ++ (name, id) :: after ∧ ∀ g ∈ after, g.1 ≠ name

theorem idNamed?_eq_some_iff {name : String} {id : GlyphId} :
    idNamed? glyphs name = some id ↔ IsNamed glyphs name id := by
  rw [idNamed?, List.lookup_eq_some_iff]
  constructor
  · rintro ⟨after, before, hsplit, hafter⟩
    refine ⟨before.reverse, after.reverse, ?_, fun g hg => ?_⟩
    · rw [List.reverse_eq_iff.mp hsplit, List.reverse_append, List.reverse_cons,
        List.append_assoc, List.singleton_append]
    · exact (bne_iff_ne.mp (hafter g (List.mem_reverse.mp hg))).symm
  · rintro ⟨before, after, rfl, hafter⟩
    refine ⟨after.reverse, before.reverse, ?_, fun g hg => ?_⟩
    · rw [List.reverse_append, List.reverse_cons, List.append_assoc, List.singleton_append]
    · exact bne_iff_ne.mpr (hafter g (List.mem_reverse.mp hg)).symm

theorem exists_idNamed?_iff {name : String} :
    (∃ id, idNamed? glyphs name = some id) ↔ name ∈ glyphs.map Prod.fst := by
  rw [← Option.isSome_iff_exists, idNamed?, List.lookup_isSome_iff, List.mem_map]
  simp only [List.mem_reverse, beq_iff_eq]
  exact exists_congr fun g => and_congr_right fun _ => eq_comm

theorem mem_of_idNamed? {name : String} {id : GlyphId} (h : idNamed? glyphs name = some id) :
    (name, id) ∈ glyphs := by
  obtain ⟨before, after, rfl, -⟩ := idNamed?_eq_some_iff.mp h
  exact List.mem_append_right before List.mem_cons_self

theorem eq_of_mem_of_mem (hids : (glyphs.map Prod.snd).Nodup) {a b : String} {id : GlyphId}
    (ha : (a, id) ∈ glyphs) (hb : (b, id) ∈ glyphs) : a = b :=
  congrArg Prod.fst (List.inj_on_of_nodup_map hids ha hb rfl)

theorem idNamed?_inj (hids : (glyphs.map Prod.snd).Nodup) {a b : String} {id : GlyphId}
    (ha : idNamed? glyphs a = some id) (hb : idNamed? glyphs b = some id) : a = b :=
  eq_of_mem_of_mem hids (mem_of_idNamed? ha) (mem_of_idNamed? hb)

/-! ## The opener, the closer and the words -/

namespace CartoucheStyle

/-- The opener, the closer and their forms all exist, under the ids of `frame`. -/
structure Frames (s : CartoucheStyle) (glyphs : List NamedId) (first last : String)
    (frame : FrameIds) : Prop where
  opener : idNamed? glyphs first = some frame.opener
  openerForm : idNamed? glyphs (s.formName first) = some frame.openerForm
  closer : idNamed? glyphs last = some frame.closer
  closerForm : ∃ id, idNamed? glyphs (s.formName last) = some id

theorem frames_of_frameIds? {opener closer : String} {frame : FrameIds}
    (h : s.frameIds? glyphs opener closer = some frame) : s.Frames glyphs opener closer frame := by
  simp only [frameIds?, bind, Option.bind_eq_some_iff, pure, Option.some.injEq] at h
  obtain ⟨_, ho, _, hof, _, hc, cf, hcf, rfl⟩ := h
  exact ⟨ho, hof, hc, cf, hcf⟩

theorem Frames.frameIds?_eq {opener closer : String} {frame : FrameIds}
    (h : s.Frames glyphs opener closer frame) : s.frameIds? glyphs opener closer = some frame := by
  obtain ⟨closerForm, hform⟩ := h.closerForm
  simp only [frameIds?, h.opener, h.openerForm, h.closer, hform]
  rfl

theorem mem_words_iff {opener closer : String} {word form : GlyphId} :
    (word, form) ∈ s.words glyphs opener closer ↔
      ∃ name, s.standsInside opener closer name = true ∧ idNamed? glyphs name = some word ∧
        idNamed? glyphs (s.formName name) = some form := by
  simp only [words, List.mem_filterMap, wordIds?, bind, guard, Option.bind_eq_some_iff, pure]
  constructor
  · rintro ⟨⟨name, id⟩, -, _, hin, w, hw, f, hf, he⟩
    split at hin
    · rename_i hinside
      cases he
      exact ⟨name, hinside, hw, hf⟩
    · cases hin
  · rintro ⟨name, hin, hw, hf⟩
    exact ⟨(name, word), mem_of_idNamed? hw, (), by simp [hin], word, hw, form, hf, rfl⟩

theorem standsInside_iff {opener closer name : String} :
    s.standsInside opener closer name = true ↔
      ((s.afterPrefix? name).isSome = true ∨ name ∈ s.joiners) ∧ s.isFormName name = false ∧
        name ≠ opener ∧ name ≠ closer := by
  simp [standsInside, and_assoc]

@[simp] theorem standsInside_opener (opener closer : String) :
    s.standsInside opener closer opener = false := by
  simp [standsInside]

@[simp] theorem standsInside_closer (opener closer : String) :
    s.standsInside opener closer closer = false := by
  simp [standsInside]

@[simp] theorem standsInside_formName (opener closer name : String) :
    s.standsInside opener closer (s.formName name) = false := by
  simp [standsInside, isFormName_formName]

/-- The ids of the words that may stand inside. -/
def wordSet (s : CartoucheStyle) (glyphs : List NamedId) (first last : String) : GlyphSet :=
  GlyphSet.ofList ((s.words glyphs first last).map Prod.fst)

/-- The ids of the forms of these words. -/
def formSet (s : CartoucheStyle) (glyphs : List NamedId) (first last : String) : GlyphSet :=
  GlyphSet.ofList ((s.words glyphs first last).map Prod.snd)

variable {first last : String}

theorem mem_wordSet_iff {word : GlyphId} :
    word ∈ s.wordSet glyphs first last ↔ ∃ form, (word, form) ∈ s.words glyphs first last := by
  simp [wordSet]

theorem mem_formSet_iff {form : GlyphId} :
    form ∈ s.formSet glyphs first last ↔ ∃ word, (word, form) ∈ s.words glyphs first last := by
  simp [formSet]

/-- An id among the words is that of a name that may stand inside, for no id has two names. -/
theorem not_mem_wordSet (hids : (glyphs.map Prod.snd).Nodup) {name : String} {id : GlyphId}
    (hname : idNamed? glyphs name = some id) (hout : s.standsInside first last name = false) :
    id ∉ s.wordSet glyphs first last := by
  intro hword
  obtain ⟨form, hpair⟩ := mem_wordSet_iff.mp hword
  obtain ⟨other, hin, hother, -⟩ := mem_words_iff.mp hpair
  rw [idNamed?_inj hids hother hname, hout] at hin
  cases hin

theorem not_mem_formSet (hids : (glyphs.map Prod.snd).Nodup) {name : String} {id : GlyphId}
    (hform : idNamed? glyphs (s.formName name) = some id)
    (hout : s.standsInside first last name = false) : id ∉ s.formSet glyphs first last := by
  intro hmem
  obtain ⟨word, hpair⟩ := mem_formSet_iff.mp hmem
  obtain ⟨other, hin, -, hother⟩ := mem_words_iff.mp hpair
  rw [formName_injective (idNamed?_inj hids hother hform), hout] at hin
  cases hin

theorem not_mem_formSet_of_mem_wordSet (hids : (glyphs.map Prod.snd).Nodup) {id : GlyphId}
    (hword : id ∈ s.wordSet glyphs first last) : id ∉ s.formSet glyphs first last := by
  intro hform
  obtain ⟨word, hpair⟩ := mem_formSet_iff.mp hform
  obtain ⟨name, -, -, hname⟩ := mem_words_iff.mp hpair
  exact not_mem_wordSet hids hname (standsInside_formName first last name) hword

/-- The rules for the given sets of words and forms. -/
def chainRules (frame : FrameIds) (words forms : GlyphSet) : List ContextRule :=
  [{ backtrack := [forms.insert frame.openerForm]
     input := words
     lookahead := [words.insert frame.closer] },
   { backtrack := [], input := GlyphSet.ofList [frame.opener], lookahead := [words] },
   { backtrack := [forms], input := GlyphSet.ofList [frame.closer], lookahead := [] }]

theorem rules_eq_chainRules {frame : FrameIds} (hfirst : s.opener = some first)
    (hlast : s.closer = some last) (hf : s.Frames glyphs first last frame)
    (hwords : s.words glyphs first last ≠ []) :
    (s.rules glyphs).1 =
      chainRules frame (s.wordSet glyphs first last) (s.formSet glyphs first last) := by
  simp [rules, hfirst, hlast, hf.frameIds?_eq, rulesFor, chainRules, wordSet, formSet, hwords]

/-- Rules are given only for an opener and a closer that exist with their forms, and some words. -/
theorem rules_of_ne_nil (h : (s.rules glyphs).1 ≠ []) :
    ∃ first last frame, s.opener = some first ∧ s.closer = some last ∧
      s.Frames glyphs first last frame ∧ s.words glyphs first last ≠ [] ∧
      (s.rules glyphs).1 =
        chainRules frame (s.wordSet glyphs first last) (s.formSet glyphs first last) := by
  cases ho : s.opener with
  | none => simp [rules, ho] at h
  | some first =>
      cases hc : s.closer with
      | none => simp [rules, ho, hc] at h
      | some last =>
          cases hf : s.frameIds? glyphs first last with
          | none => simp [rules, ho, hc, hf] at h
          | some frame =>
              have hframes := frames_of_frameIds? hf
              by_cases hw : s.words glyphs first last = []
              · simp [rules, ho, hc, hf, hw, rulesFor] at h
              · exact ⟨first, last, frame, rfl, rfl, hframes, hw,
                  rules_eq_chainRules ho hc hframes hw⟩

/-- What a rule replaces is named, and so is its form. -/
theorem exists_form_of_mem_input {rule : ContextRule} (hrule : rule ∈ (s.rules glyphs).1)
    {id : GlyphId} (hid : id ∈ rule.input) :
    ∃ name form, idNamed? glyphs name = some id ∧
      idNamed? glyphs (s.formName name) = some form := by
  obtain ⟨first, last, frame, -, -, hf, -, hrules⟩ := rules_of_ne_nil (List.ne_nil_of_mem hrule)
  rw [hrules] at hrule
  simp only [chainRules, List.mem_cons, List.not_mem_nil, or_false] at hrule
  rcases hrule with rfl | rfl | rfl
  · obtain ⟨form, hpair⟩ := mem_wordSet_iff.mp hid
    obtain ⟨name, -, hname, hform⟩ := mem_words_iff.mp hpair
    exact ⟨name, form, hname, hform⟩
  · obtain rfl : id = frame.opener := by simpa using hid
    exact ⟨first, frame.openerForm, hf.opener, hf.openerForm⟩
  · obtain rfl : id = frame.closer := by simpa using hid
    obtain ⟨form, hform⟩ := hf.closerForm
    exact ⟨last, form, hf.closer, hform⟩

/-- Every id in a rule is that of a named glyph. -/
theorem exists_name_of_mem_rule {rule : ContextRule} (hrule : rule ∈ (s.rules glyphs).1)
    {set : GlyphSet} (hset : set ∈ rule.input :: (rule.backtrack ++ rule.lookahead)) {id : GlyphId}
    (hid : id ∈ set) : ∃ name, (name, id) ∈ glyphs := by
  obtain ⟨first, last, frame, -, -, hf, -, hrules⟩ := rules_of_ne_nil (List.ne_nil_of_mem hrule)
  have hword : ∀ word ∈ s.wordSet glyphs first last, ∃ name, (name, word) ∈ glyphs := by
    intro word hword
    obtain ⟨form, hpair⟩ := mem_wordSet_iff.mp hword
    obtain ⟨name, -, hname, -⟩ := mem_words_iff.mp hpair
    exact ⟨name, mem_of_idNamed? hname⟩
  have hform : ∀ form ∈ s.formSet glyphs first last, ∃ name, (name, form) ∈ glyphs := by
    intro form hform
    obtain ⟨word, hpair⟩ := mem_formSet_iff.mp hform
    obtain ⟨name, -, -, hname⟩ := mem_words_iff.mp hpair
    exact ⟨_, mem_of_idNamed? hname⟩
  rw [hrules] at hrule
  simp only [chainRules, List.mem_cons, List.not_mem_nil, or_false] at hrule
  rcases hrule with rfl | rfl | rfl
  · simp only [List.cons_append, List.nil_append, List.mem_cons, List.not_mem_nil, or_false] at hset
    rcases hset with rfl | rfl | rfl
    · exact hword id hid
    · rcases GlyphSet.mem_insert.mp hid with rfl | hid
      · exact ⟨_, mem_of_idNamed? hf.openerForm⟩
      · exact hform id hid
    · rcases GlyphSet.mem_insert.mp hid with rfl | hid
      · exact ⟨_, mem_of_idNamed? hf.closer⟩
      · exact hword id hid
  · simp only [List.nil_append, List.mem_cons, List.not_mem_nil, or_false] at hset
    rcases hset with rfl | rfl
    · obtain rfl : id = frame.opener := by simpa using hid
      exact ⟨_, mem_of_idNamed? hf.opener⟩
    · exact hword id hid
  · simp only [List.append_nil, List.mem_cons, List.not_mem_nil, or_false] at hset
    rcases hset with rfl | rfl
    · obtain rfl : id = frame.closer := by simpa using hid
      exact ⟨_, mem_of_idNamed? hf.closer⟩
    · exact hform id hid

end CartoucheStyle

end Gridface
