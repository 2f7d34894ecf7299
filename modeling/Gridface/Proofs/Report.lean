import Gridface.Report
import Mathlib.Data.List.Forall2

/-!
# The outcome of a report

Notices do not change what becomes of a build: the outcome of some steps is that of the steps
without their notices.
-/

namespace Gridface

namespace Report

variable {α β : Type}

@[simp] theorem outcome_pure (a : α) : (pure a : Report α).outcome = .ok a := rfl

@[simp] theorem outcome_noteAll (ns : List Notice) : (noteAll ns).outcome = .ok () := rfl

@[simp] theorem outcome_liftM (x : Except Fault α) : (liftM x : Report α).outcome = x := rfl

@[simp] theorem outcome_bind (r : Report α) (f : α → Report β) :
    (r >>= f).outcome = r.outcome >>= fun a => (f a).outcome := by
  show (Report.bind r f).outcome = _
  unfold Report.bind
  cases r.outcome with
  | ok a => rfl
  | error e => rfl

@[simp] theorem notices_pure (a : α) : (pure a : Report α).notices = [] := rfl

@[simp] theorem notices_liftM (x : Except Fault α) : (liftM x : Report α).notices = [] := rfl

theorem notices_bind_of_ok {r : Report α} {a : α} (h : r.outcome = .ok a) (f : α → Report β) :
    (r >>= f).notices = r.notices ++ (f a).notices := by
  show (Report.bind r f).notices = _
  unfold Report.bind
  rw [h]

theorem notices_bind_of_error {r : Report α} {e : Fault} (h : r.outcome = .error e)
    (f : α → Report β) : (r >>= f).notices = r.notices := by
  show (Report.bind r f).notices = _
  unfold Report.bind
  rw [h]

theorem bind_eq_ok {r : Report α} {f : α → Report β} {b : β} :
    (r >>= f).outcome = .ok b ↔ ∃ a, r.outcome = .ok a ∧ (f a).outcome = .ok b := by
  rw [outcome_bind]
  cases r.outcome with
  | ok a => simp [bind, Except.bind]
  | error e => simp [bind, Except.bind]

end Report

theorem except_bind_eq_ok {α β : Type} {x : Except Fault α} {f : α → Except Fault β} {b : β} :
    x >>= f = .ok b ↔ ∃ a, x = .ok a ∧ f a = .ok b := by
  cases x with
  | ok a => simp [bind, Except.bind]
  | error e => simp [bind, Except.bind]

theorem map_eq_ok {α β : Type} {x : Except Fault α} {f : α → β} {b : β} :
    x.map f = .ok b ↔ ∃ a, x = .ok a ∧ f a = b := by
  cases x with
  | ok a => simp [Except.map]
  | error e => simp [Except.map]

theorem map_eq_error {α β : Type} {x : Except Fault α} {f : α → β} {e : Fault} :
    x.map f = .error e ↔ x = .error e := by
  cases x with
  | ok a => simp [Except.map]
  | error e' => simp [Except.map]

/-! ## Steps for the members of a list -/

variable {α β : Type} {f : α → Except Fault β} {as : List α} {bs : List β}

theorem mapM_eq_ok : as.mapM f = .ok bs ↔ bs.map .ok = as.map f := by
  induction as generalizing bs with
  | nil => simp [pure, Except.pure, eq_comm]
  | cons a as ih =>
      rw [List.mapM_cons, List.map_cons]
      constructor
      · intro h
        cases ha : f a with
        | error e =>
            rw [ha] at h
            cases h
        | ok b =>
            cases has : as.mapM f with
            | error e =>
                rw [ha, has] at h
                cases h
            | ok rest =>
                rw [ha, has] at h
                cases h
                rw [List.map_cons, ih.mp has]
      · intro h
        obtain ⟨b, rest, rfl, hb, hrest⟩ := List.map_eq_cons_iff.mp h
        rw [← hb, ih.mpr hrest]
        rfl

/-- Of several steps that fail the first one counts. -/
theorem mapM_eq_error {e : Fault} :
    as.mapM f = .error e ↔ ∃ before a after, as = before ++ a :: after ∧
      (∀ b ∈ before, ∃ c, f b = .ok c) ∧ f a = .error e := by
  induction as with
  | nil => simp [pure, Except.pure]
  | cons a as ih =>
      rw [List.mapM_cons]
      cases ha : f a with
      | error e' =>
          constructor
          · intro h
            cases h
            exact ⟨[], a, as, rfl, by simp, ha⟩
          · rintro ⟨before, a', after, hsplit, hbefore, he⟩
            cases before with
            | nil =>
                cases hsplit
                rw [ha] at he
                cases he
                rfl
            | cons b before =>
                cases hsplit
                obtain ⟨c, hc⟩ := hbefore a List.mem_cons_self
                rw [ha] at hc
                cases hc
      | ok b =>
          have hrest : ((.ok b : Except Fault β) >>= fun b => as.mapM f >>= fun bs =>
              pure (b :: bs)) = .error e ↔ as.mapM f = .error e := by
            cases as.mapM f with
            | error e' => exact Iff.rfl
            | ok bs => simp [bind, Except.bind, pure, Except.pure]
          rw [hrest, ih]
          constructor
          · rintro ⟨before, a', after, rfl, hbefore, he⟩
            exact ⟨a :: before, a', after, rfl, List.forall_mem_cons.mpr ⟨⟨b, ha⟩, hbefore⟩, he⟩
          · rintro ⟨before, a', after, hsplit, hbefore, he⟩
            cases before with
            | nil =>
                cases hsplit
                rw [ha] at he
                cases he
            | cons b' before =>
                cases hsplit
                exact ⟨before, a', after, rfl, (List.forall_mem_cons.mp hbefore).2, he⟩

/-- If every step succeeds, so do all together. -/
theorem exists_mapM_eq_ok (h : ∀ a ∈ as, ∃ b, f a = .ok b) : ∃ bs, as.mapM f = .ok bs := by
  induction as with
  | nil => exact ⟨[], rfl⟩
  | cons a as ih =>
      obtain ⟨⟨b, hb⟩, has⟩ := List.forall_mem_cons.mp h
      obtain ⟨bs, hbs⟩ := ih has
      refine ⟨b :: bs, ?_⟩
      rw [List.mapM_cons, hb, hbs]
      rfl

theorem findRev?_concat (as : List α) (a : α) (p : α → Bool) :
    (as ++ [a]).findRev? p = if p a then some a else as.findRev? p := by
  rw [List.findRev?_eq_find?_reverse, List.reverse_append, List.reverse_singleton,
    List.singleton_append, List.find?_cons, List.findRev?_eq_find?_reverse]
  cases p a with
  | true => rfl
  | false => rfl

theorem eraseDups_concat [DecidableEq α] (as : List α) (a : α) :
    (as ++ [a]).eraseDups = if a ∈ as then as.eraseDups else as.eraseDups ++ [a] := by
  rw [List.eraseDups_append]
  by_cases hold : a ∈ as
  · simp [hold, List.removeAll]
  · simp [hold, List.removeAll, List.eraseDups_cons]

theorem findRev?_of_map_ok (h : bs.map .ok = as.map f) {p : α → Bool} {q : β → Bool}
    (hpq : ∀ a b, f a = .ok b → q b = p a) :
    (bs.findRev? q).map .ok = (as.findRev? p).map f := by
  have hfind : ∀ {as : List α} {bs : List β}, bs.map .ok = as.map f →
      (bs.find? q).map .ok = (as.find? p).map f := by
    intro as bs h
    induction as generalizing bs with
    | nil =>
        obtain rfl : bs = [] := List.map_eq_nil_iff.mp h
        rfl
    | cons a as ih =>
        obtain ⟨b, bs, rfl, hb, hrest⟩ := List.map_eq_cons_iff.mp h
        rw [List.find?_cons, List.find?_cons, hpq a b hb.symm]
        cases p a with
        | true => exact congrArg some hb
        | false => exact ih hrest
  rw [List.findRev?_eq_find?_reverse, List.findRev?_eq_find?_reverse]
  apply hfind
  rw [List.map_reverse, List.map_reverse, h]

theorem mem_iff_of_map_ok (h : bs.map .ok = as.map f) {b : β} :
    b ∈ bs ↔ ∃ a ∈ as, f a = .ok b := by
  constructor
  · intro hb
    have hmem : Except.ok b ∈ as.map f := h ▸ List.mem_map_of_mem hb
    exact List.mem_map.mp hmem
  · rintro ⟨a, ha, hb⟩
    have hmem : Except.ok b ∈ bs.map (Except.ok (ε := Fault)) := h ▸ hb ▸ List.mem_map_of_mem ha
    obtain ⟨b', hb', he⟩ := List.mem_map.mp hmem
    cases he
    exact hb'

theorem exists_of_map_ok (h : bs.map .ok = as.map f) {a : α} (ha : a ∈ as) :
    ∃ b ∈ bs, f a = .ok b := by
  have hmem : f a ∈ bs.map Except.ok := h ▸ List.mem_map_of_mem ha
  obtain ⟨b, hb, he⟩ := List.mem_map.mp hmem
  exact ⟨b, hb, he.symm⟩

theorem forall₂_of_map_ok (h : bs.map .ok = as.map f) :
    List.Forall₂ (fun a b => f a = .ok b) as bs := by
  have heq : List.Forall₂ (· = ·) (as.map f) (bs.map Except.ok) := by
    rw [List.forall₂_eq_eq_eq]
    exact h.symm
  rwa [List.forall₂_map_left_iff, List.forall₂_map_right_iff] at heq

end Gridface
