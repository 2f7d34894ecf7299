import Gridface.Cartouche

/-!
# Names of words and forms

A form's name tells its word, the name of a form is never that of a word, and with an empty suffix
there are no words at all.
-/

namespace Gridface.CartoucheStyle

variable {s : CartoucheStyle}

theorem toList_formName (name : String) :
    (s.formName name).toList = name.toList ++ s.suffix.toList := by
  simp [formName]

theorem formName_injective {a b : String} (h : s.formName a = s.formName b) : a = b := by
  have hl := congrArg String.toList h
  rw [toList_formName, toList_formName] at hl
  exact String.toList_inj.mp (List.append_cancel_right hl)

theorem isFormName_formName (name : String) : s.isFormName (s.formName name) = true := by
  rw [isFormName, toList_formName, List.isSuffixOf_iff_suffix]
  exact List.suffix_append _ _

/-- The name of a form is longer than that of its word, unless every name is that of a form. -/
theorem formName_ne {name other : String} (h : s.isFormName other = false) :
    s.formName name ≠ name := by
  intro he
  have hl := congrArg String.toList he
  rw [toList_formName] at hl
  have hnil : s.suffix.toList = [] := List.append_right_eq_self.mp hl
  simp [isFormName, hnil] at h

/-! ## Words -/

/-- A word's name begins with the word prefix and does not end with the suffix. -/
def NamesWord (s : CartoucheStyle) (name : String) : Prop :=
  s.wordPrefix.toList <+: name.toList ∧ ¬s.suffix.toList <:+ name.toList

theorem isFormName_iff {name : String} :
    s.isFormName name = true ↔ s.suffix.toList <:+ name.toList :=
  List.isSuffixOf_iff_suffix

theorem afterPrefix?_eq_some_iff {name word : String} :
    s.afterPrefix? name = some word ↔ name = s.wordPrefix ++ word := by
  unfold afterPrefix?
  split
  · rename_i hprefix
    obtain ⟨rest, hrest⟩ := List.isPrefixOf_iff_prefix.mp hprefix
    rw [← hrest, List.drop_left, Option.some_inj, ← String.toList_inj, ← String.toList_inj,
      String.toList_append, String.toList_ofList, ← hrest, List.append_cancel_left_eq]
  · rename_i hprefix
    refine iff_of_false (by simp) ?_
    rintro rfl
    simp [List.isPrefixOf_iff_prefix] at hprefix

theorem isSome_afterPrefix?_iff {name : String} :
    (s.afterPrefix? name).isSome = true ↔ s.wordPrefix.toList <+: name.toList := by
  rw [← List.isPrefixOf_iff_prefix]
  unfold afterPrefix?
  split
  · rename_i hprefix
    exact iff_of_true rfl hprefix
  · rename_i hprefix
    exact iff_of_false Bool.noConfusion hprefix

theorem word?_eq_some_iff {name word : String} :
    s.word? name = some word ↔ s.NamesWord name ∧ name = s.wordPrefix ++ word := by
  unfold word? NamesWord
  rw [← isFormName_iff]
  split
  · rename_i hform
    simp [hform]
  · rename_i hform
    rw [afterPrefix?_eq_some_iff]
    constructor
    · rintro rfl
      exact ⟨⟨by simp, hform⟩, rfl⟩
    · exact And.right

theorem word?_eq_none_iff {name : String} : s.word? name = none ↔ ¬s.NamesWord name := by
  rw [Option.eq_none_iff_forall_ne_some]
  constructor
  · rintro hnone ⟨⟨rest, hrest⟩, hsuffix⟩
    refine hnone (String.ofList rest) (word?_eq_some_iff.mpr ⟨⟨⟨rest, hrest⟩, hsuffix⟩, ?_⟩)
    rw [← String.toList_inj, String.toList_append, String.toList_ofList, hrest]
  · intro hnot word hword
    exact hnot (word?_eq_some_iff.mp hword).1

end Gridface.CartoucheStyle
