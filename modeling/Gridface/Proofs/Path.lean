import Gridface.Path

/-!
# Components of a path

What follows a directory after a slash is one component more, if it holds no slash itself.
-/

namespace Gridface

namespace Text

variable {mark : Char} {cs ds : List Char}

theorem splitAt_of_not_mem (h : mark ∉ cs) : splitAt mark cs = [cs] := by
  induction cs with
  | nil => rfl
  | cons c cs ih =>
      have hc : c ≠ mark := Ne.symm (List.ne_of_not_mem_cons h)
      rw [splitAt, if_neg hc, ih (List.not_mem_of_not_mem_cons h)]

theorem splitAt_append_mark (mark : Char) (cs ds : List Char) :
    splitAt mark (cs ++ mark :: ds) = splitAt mark cs ++ splitAt mark ds := by
  induction cs with
  | nil => exact if_pos rfl
  | cons c cs ih =>
      obtain ⟨part, parts, hparts⟩ := List.exists_cons_of_ne_nil (splitAt_ne_nil mark cs)
      rw [List.cons_append, splitAt, splitAt, ih, hparts]
      split
      · rfl
      · rfl

theorem not_mem_of_mem_splitAt {part : List Char} (h : part ∈ splitAt mark cs) : mark ∉ part := by
  induction cs generalizing part with
  | nil =>
      cases List.mem_singleton.mp h
      exact List.not_mem_nil
  | cons c cs ih =>
      obtain ⟨first, rest, hparts⟩ := List.exists_cons_of_ne_nil (splitAt_ne_nil mark cs)
      rw [splitAt, hparts] at h
      rw [hparts] at ih
      split at h
      · rcases List.mem_cons.mp h with rfl | h
        · exact List.not_mem_nil
        · exact ih h
      · rename_i hc
        rcases List.mem_cons.mp h with rfl | h
        · exact List.not_mem_cons_of_ne_of_not_mem (Ne.symm hc) (ih List.mem_cons_self)
        · exact ih (List.mem_cons_of_mem _ h)

end Text

namespace Path

open Text

variable {base part : String}

/-- The components of a path: the root or a dot only at its start, and no others that lead
nowhere. -/
def components (path : String) : List (List Char) :=
  if path.toList = [] then []
  else
    match splitAt '/' path.toList with
    | [] => []
    | first :: rest =>
      (if first = [] then ['/'] else first) :: rest.filter fun component => !isIdle component

theorem mem_components {path : String} {component : List Char} (h : component ∈ components path) :
    component = ['/'] ∨ '/' ∉ component := by
  unfold components at h
  split at h
  · cases h
  · split at h
    · cases h
    · rename_i first rest hparts
      rcases List.mem_cons.mp h with rfl | h
      · split
        · exact .inl rfl
        · exact .inr (not_mem_of_mem_splitAt (hparts ▸ List.mem_cons_self))
      · have hrest := (List.mem_filter.mp h).1
        exact .inr (not_mem_of_mem_splitAt (hparts ▸ List.mem_cons_of_mem _ hrest))

/-! ## A name behind a directory -/

/-- A name that can follow a directory: it holds no slash, and leads somewhere. -/
structure IsPlain (name : String) : Prop where
  no_slash : '/' ∉ name.toList
  not_idle : isIdle name.toList = false

theorem IsPlain.ne_nil (h : IsPlain part) : part.toList ≠ [] := by
  intro hempty
  have hidle := h.not_idle
  rw [hempty] at hidle
  cases hidle

theorem IsPlain.not_absolute (h : IsPlain part) : isAbsolute part = false := by
  rw [isAbsolute]
  cases hpart : part.toList with
  | nil => exact absurd hpart h.ne_nil
  | cons c cs =>
      have hc : c ≠ '/' := fun hc => h.no_slash (hpart ▸ hc ▸ List.mem_cons_self)
      simpa using hc

/-- A name stands behind a slash, unless the directory is that of the empty path. -/
theorem join_cases (h : IsPlain part) (base : String) :
    (base.toList = [] ∧ (join base part).toList = part.toList) ∨
      ∃ before tail, base.toList = before ++ tail ∧ (tail = [] ∨ tail = ['/']) ∧
        base.toList ≠ [] ∧ (join base part).toList = before ++ '/' :: part.toList := by
  unfold join
  rw [h.not_absolute, if_neg Bool.false_ne_true]
  rcases List.eq_nil_or_concat base.toList with hempty | ⟨before, last, hbase⟩
  · refine .inl ⟨hempty, ?_⟩
    rw [if_pos (by simp [hempty]), String.toList_append, hempty, List.nil_append]
  · right
    rw [List.concat_eq_append] at hbase
    have hne : base.toList ≠ [] := by
      rw [hbase]
      exact List.append_ne_nil_of_right_ne_nil _ (List.cons_ne_nil _ _)
    have hlast : base.toList.getLast? = some last := by
      rw [hbase]
      exact List.getLast?_concat
    by_cases hslash : last = '/'
    · refine ⟨before, ['/'], hslash ▸ hbase, .inr rfl, hne, ?_⟩
      rw [if_pos (by simp [hlast, hslash]), String.toList_append, hbase, hslash,
        List.append_assoc]
      rfl
    · refine ⟨base.toList, [], (List.append_nil _).symm, .inl rfl, hne, ?_⟩
      rw [if_neg (by simp [hlast, hslash, hne]), String.toList_append, String.toList_append,
        List.append_assoc]
      rfl

theorem join_ne_nil (h : IsPlain part) (base : String) : (join base part).toList ≠ [] := by
  rcases join_cases h base with ⟨-, hjoin⟩ | ⟨before, tail, -, -, -, hjoin⟩
  · exact hjoin ▸ h.ne_nil
  · exact hjoin ▸ List.append_ne_nil_of_right_ne_nil _ (List.cons_ne_nil _ _)

theorem isAbsolute_join (h : IsPlain part) (base : String) :
    isAbsolute (join base part) = isAbsolute base := by
  rcases join_cases h base with ⟨hempty, hjoin⟩ | ⟨before, tail, hbase, htail, hne, hjoin⟩
  · have hpart := h.not_absolute
    rw [isAbsolute] at hpart ⊢
    rw [hjoin, hpart, isAbsolute, hempty]
    rfl
  · rw [isAbsolute, isAbsolute, hjoin, hbase]
    cases before with
    | cons c cs => rfl
    | nil =>
        rcases htail with rfl | rfl
        · exact absurd hbase hne
        · rfl

/-- The parts of a joined path are those of the directory, but for an empty one at the end, and then
the name. -/
theorem splitAt_join (h : IsPlain part) (base : String) :
    ∃ front tail, splitAt '/' base.toList = front ++ tail ∧ (∀ idle ∈ tail, idle = []) ∧
      splitAt '/' (join base part).toList = front ++ [part.toList] := by
  have hpart := splitAt_of_not_mem h.no_slash
  rcases join_cases h base with ⟨hempty, hjoin⟩ | ⟨before, tail, hbase, htail, -, hjoin⟩
  · have hsplit : splitAt '/' base.toList = [[]] := by
      rw [hempty]
      rfl
    rw [← hjoin] at hpart
    exact ⟨[], [[]], hsplit, List.forall_mem_singleton.mpr rfl, hjoin ▸ hpart⟩
  · have hjoined : splitAt '/' (join base part).toList = splitAt '/' before ++ [part.toList] := by
      rw [hjoin, splitAt_append_mark, hpart]
    rcases htail with rfl | rfl
    · rw [List.append_nil] at hbase
      exact ⟨splitAt '/' before, [], hbase ▸ (List.append_nil _).symm, nofun, hjoined⟩
    · have hsplit : splitAt '/' base.toList = splitAt '/' before ++ [[]] := by
        rw [hbase, splitAt_append_mark]
        rfl
      exact ⟨splitAt '/' before, [[]], hsplit, List.forall_mem_singleton.mpr rfl, hjoined⟩

theorem components_of_splitAt {path : String} {first : List Char} {rest : List (List Char)}
    (hne : path.toList ≠ []) (h : splitAt '/' path.toList = first :: rest) :
    components path = (if first = [] then ['/'] else first) ::
      rest.filter fun component => !isIdle component := by
  rw [components, if_neg hne, h]

/-- A name behind a directory is one component more. -/
theorem components_join (h : IsPlain part) (base : String) :
    components (join base part) = components base ++ [part.toList] := by
  have hpart := splitAt_of_not_mem h.no_slash
  rcases join_cases h base with ⟨hempty, hjoin⟩ | ⟨before, tail, hbase, htail, hne, hjoin⟩
  · rw [← hjoin] at hpart
    rw [components_of_splitAt (hjoin ▸ h.ne_nil) hpart, hjoin, if_neg h.ne_nil, components,
      if_pos hempty]
    rfl
  · obtain ⟨first, rest, hparts⟩ := List.exists_cons_of_ne_nil (splitAt_ne_nil '/' before)
    have hjoined : splitAt '/' (join base part).toList = first :: (rest ++ [part.toList]) := by
      rw [hjoin, splitAt_append_mark, hparts, hpart]
      rfl
    rw [components_of_splitAt (join_ne_nil h base) hjoined, List.filter_append,
      List.filter_cons_of_pos (by simp [h.not_idle])]
    rcases htail with rfl | rfl
    · rw [List.append_nil] at hbase
      rw [components_of_splitAt hne (hbase ▸ hparts)]
      rfl
    · have hbaseparts : splitAt '/' base.toList = first :: (rest ++ [[]]) := by
        rw [hbase, splitAt_append_mark, hparts]
        rfl
      have hidle : [[]].filter (fun component => !isIdle component) = [] := rfl
      rw [components_of_splitAt hne hbaseparts, List.filter_append, hidle, List.append_nil]
      rfl

end Path

end Gridface
