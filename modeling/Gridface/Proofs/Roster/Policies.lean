import Gridface.Proofs.Outline.Positions
import Gridface.Proofs.Roster.Compile
import Mathlib

/-!
# Strict and lenient builds

The two policies build the same rosters, as long as nothing is left unresolved. What the lenient
policy leaves unresolved the strict one refuses, at the first such reference.
-/

namespace Gridface

variable {α β γ : Type} [Coordinate α]

theorem OnlyOverflows.entry (m : Metrics) (g : Glyph) (id : GlyphId) :
    OnlyOverflows (g.entry m id : Except Fault (Entry α)) := by
  unfold Glyph.entry
  cases g.bitmap with
  | none => exact ok _
  | some b => exact (outline m b).bind fun _ => ok _

/-! ## Two outcomes compared -/

/-- The outcome of a strict build beside that of a lenient one, where `refs` are the references that
the lenient result leaves unresolved. -/
inductive Compared (refs : β → List Reference) : Except Fault β → Except Fault β → Prop
  /-- The strict build refuses what the lenient one leaves unresolved. -/
  | judged (b : β) : Compared refs (UnknownKeyPolicy.refuse.judge (refs b) b) (.ok b)
  /-- Both fail. -/
  | failed {e : Fault} (h : ∀ glyph key, e ≠ .unresolvedKey glyph key) :
      Compared refs (.error e) (.error e)
  /-- The strict build stops at a reference before it comes to the drawing that ends the other. -/
  | sooner (glyph key : String) :
      Compared refs (.error (.unresolvedKey glyph key)) (.error .positionOverflow)

namespace Compared

variable {refs : β → List Reference} {refs' : γ → List Reference} {strict lenient : Except Fault β}

theorem map (h : Compared refs strict lenient) {f : β → γ} (hf : ∀ b, refs' (f b) = refs b) :
    Compared refs' (strict >>= fun b => .ok (f b)) (lenient >>= fun b => .ok (f b)) := by
  cases h with
  | judged b =>
      rw [UnknownKeyPolicy.judge_map, ← hf b]
      exact .judged (f b)
  | failed h => exact .failed h
  | sooner glyph key => exact .sooner glyph key

/-- The strict build has stopped at a reference that the lenient one leaves unresolved. -/
theorem of_refused (hlenient : OnlyOverflows lenient) {f : β → γ} {first : Reference}
    (hf : ∀ b, ∃ rest, refs' (f b) = first :: rest) :
    Compared refs' (.error (.unresolvedKey first.glyph first.key))
      (lenient >>= fun b => .ok (f b)) := by
  cases lenient with
  | error e =>
      obtain rfl := hlenient e rfl
      exact .sooner first.glyph first.key
  | ok b =>
      obtain ⟨rest, hrest⟩ := hf b
      have hjudged : Compared refs' (UnknownKeyPolicy.refuse.judge (refs' (f b)) (f b))
          (.ok (f b)) := .judged (f b)
      rw [hrest] at hjudged
      exact hjudged

theorem strict_eq_ok_iff (h : Compared refs strict lenient) {b : β} :
    strict = .ok b ↔ lenient = .ok b ∧ refs b = [] := by
  cases h with
  | judged c =>
      rw [UnknownKeyPolicy.judge_eq_ok, Except.ok.injEq]
      constructor
      · rintro ⟨hrefs, rfl⟩
        exact ⟨rfl, hrefs rfl⟩
      · rintro ⟨rfl, hrefs⟩
        exact ⟨fun _ => hrefs, rfl⟩
  | failed h => simp
  | sooner glyph key => simp

theorem strict_eq_refusal (h : Compared refs strict lenient) {b : β} {first : Reference}
    {rest : List Reference} (hb : lenient = .ok b) (hrefs : refs b = first :: rest) :
    strict = .error (.unresolvedKey first.glyph first.key) := by
  cases h with
  | judged c =>
      cases hb
      rw [hrefs]
      rfl
  | failed h => cases hb
  | sooner glyph key => cases hb

theorem lenient_of_strict (h : Compared refs strict lenient) {e : Fault} (he : strict = .error e) :
    lenient = .error e ∨ ∃ glyph key, e = .unresolvedKey glyph key := by
  cases h with
  | judged b =>
      cases hrefs : refs b with
      | nil =>
          rw [hrefs] at he
          cases he
      | cons first rest =>
          rw [hrefs] at he
          cases he
          exact Or.inr ⟨first.glyph, first.key, rfl⟩
  | failed h =>
      cases he
      exact Or.inl rfl
  | sooner glyph key =>
      cases he
      exact Or.inr ⟨glyph, key, rfl⟩

theorem strict_of_lenient (h : Compared refs strict lenient) {e : Fault}
    (he : lenient = .error e) :
    (∀ glyph key, e ≠ .unresolvedKey glyph key) ∧
      (strict = .error e ∨
        e = .positionOverflow ∧ ∃ glyph key, strict = .error (.unresolvedKey glyph key)) := by
  cases h with
  | judged b => cases he
  | failed h =>
      cases he
      exact ⟨h, Or.inl rfl⟩
  | sooner glyph key =>
      cases he
      refine ⟨?_, Or.inr ⟨rfl, glyph, key, rfl⟩⟩
      intro glyph key he
      cases he

end Compared

/-! ## The same steps under both policies -/

namespace RosterOptions

variable {o : RosterOptions} {n : Numbering} {r : Repertoire}

/-- The options with another policy. -/
def withPolicy (o : RosterOptions) (policy : UnknownKeyPolicy) : RosterOptions := { o with policy }

theorem outcome_compileAll_cons (g : Glyph) (id : GlyphId) (pairs : List (Glyph × GlyphId)) :
    (o.compileAll n ((g, id) :: pairs) : Report (List (Entry α) × Links)).outcome =
      g.entry o.metrics id >>= fun entry =>
      o.policy.judge (n.linksOf g id).unresolved (n.linksOf g id) >>= fun links =>
      (o.compileAll n pairs).outcome >>= fun rest =>
      .ok (entry :: rest.1, links ++ rest.2) := by
  simp only [compileAll, Report.outcome_bind, Report.outcome_liftM, Report.outcome_pure,
    UnknownKeyPolicy.outcome_links]

theorem onlyOverflows_compileAll (o : RosterOptions) (n : Numbering)
    (pairs : List (Glyph × GlyphId)) :
    OnlyOverflows
      ((o.withPolicy .warn).compileAll n pairs : Report (List (Entry α) × Links)).outcome := by
  induction pairs with
  | nil => exact .ok _
  | cons p pairs ih =>
      obtain ⟨g, id⟩ := p
      rw [outcome_compileAll_cons]
      exact (OnlyOverflows.entry _ g id).bind fun entry => (OnlyOverflows.ok _).bind fun links =>
        ih.bind fun rest => .ok _

/-- Glyph by glyph: the outlines are the same, and the first unresolved reference counts. -/
theorem compared_compileAll (o : RosterOptions) (n : Numbering) (pairs : List (Glyph × GlyphId)) :
    Compared (fun p => p.2.unresolved)
      ((o.withPolicy .refuse).compileAll n pairs : Report (List (Entry α) × Links)).outcome
      ((o.withPolicy .warn).compileAll n pairs).outcome := by
  induction pairs with
  | nil => exact .judged (([], {}) : List (Entry α) × Links)
  | cons p pairs ih =>
      obtain ⟨g, id⟩ := p
      rw [outcome_compileAll_cons, outcome_compileAll_cons]
      show Compared _ (g.entry o.metrics id >>= _) (g.entry o.metrics id >>= _)
      cases hentry : (g.entry o.metrics id : Except Fault (Entry α)) with
      | error e =>
          obtain rfl := OnlyOverflows.entry o.metrics g id e hentry
          exact .failed fun glyph key he => by cases he
      | ok entry =>
          show Compared _
            (UnknownKeyPolicy.refuse.judge (n.linksOf g id).unresolved (n.linksOf g id) >>= _)
            (((o.withPolicy .warn).compileAll n pairs).outcome >>= _)
          cases hlinks : (n.linksOf g id).unresolved with
          | nil =>
              rw [UnknownKeyPolicy.judge_nil]
              exact ih.map fun rest => by rw [Links.append_eq, hlinks, List.nil_append]
          | cons first others =>
              -- the strict build ends here, whatever becomes of the glyphs that follow
              refine Compared.of_refused (onlyOverflows_compileAll o n pairs) fun rest => ?_
              exact ⟨others ++ rest.2.unresolved, by rw [Links.append_eq, hlinks, List.cons_append]⟩

theorem assign_ne_unresolvedKey {e : Fault} (h : Numbering.assign r = .error e)
    (glyph key : String) : e ≠ .unresolvedKey glyph key := by
  rintro rfl
  rcases Numbering.assign_eq_error.mp h with ⟨_, _, _, -, -, hrefused⟩ | ⟨-, _, -, he⟩
  · cases hrefused
  · cases he

theorem compared_compile (o : RosterOptions) (r : Repertoire) :
    Compared Roster.unresolved ((o.withPolicy .refuse).compile r : Report (Roster α)).outcome
      ((o.withPolicy .warn).compile r).outcome := by
  rw [outcome_compile, outcome_compile]
  cases hn : Numbering.assign r with
  | error e => exact .failed (assign_ne_unresolvedKey hn)
  | ok n => exact (compared_compileAll o n _).map fun _ => rfl

end RosterOptions

/-! ## What is left unresolved -/

theorem Numbering.Numbers.unresolved_linksOf {n : Numbering} {r : Repertoire} (h : n.Numbers r)
    (g : Glyph) (id : GlyphId) :
    (n.linksOf g id).unresolved =
      (g.mentions.filter fun key => key ∉ r.keys).map fun key => { glyph := g.key, key } := by
  show g.mentions.flatMap (n.missing g.key) = _
  induction g.mentions with
  | nil => rfl
  | cons key keys ih =>
      rw [List.flatMap_cons, ih, h.missing_eq]
      by_cases hkey : key ∈ r.keys
      · simp [hkey]
      · simp [hkey]

/-- What is left unresolved are the mentions of keys that no glyph has, in order and as often as
they occur. -/
theorem Roster.Compiled.unresolved_eq_flatMap {t : Roster α} {o : RosterOptions} {r : Repertoire}
    {n : Numbering} (h : t.Compiled o r n) :
    t.unresolved = r.glyphs.flatMap fun g =>
      (g.mentions.filter fun key => key ∉ r.keys).map fun key => { glyph := g.key, key } := by
  rw [h.unresolved_eq]
  simp only [h.numbers.unresolved_linksOf]

/-! ## The policies -/

/-- A strict build gives what the lenient one gives, if that leaves nothing unresolved, and else
fails at the first reference that the lenient one leaves unresolved; any other error ends both. An
overflow is no error that a build reports but breaks it off where it happens, so the strict build
may have refused a reference before it comes to that. -/
theorem compile_strict_and_lenient (o : RosterOptions) (r : Repertoire) :
    (∀ t : Roster α, ((o.withPolicy .refuse).compile r).outcome = .ok t ↔
      ((o.withPolicy .warn).compile r).outcome = .ok t ∧ t.unresolved = []) ∧
    (∀ (t : Roster α) first rest, ((o.withPolicy .warn).compile r).outcome = .ok t →
      t.unresolved = first :: rest →
      ((o.withPolicy .refuse).compile r : Report (Roster α)).outcome =
        .error (.unresolvedKey first.glyph first.key)) ∧
    (∀ e, ((o.withPolicy .refuse).compile r : Report (Roster α)).outcome = .error e →
      ((o.withPolicy .warn).compile r : Report (Roster α)).outcome = .error e ∨
        ∃ glyph key, e = .unresolvedKey glyph key) ∧
    (∀ e, ((o.withPolicy .warn).compile r : Report (Roster α)).outcome = .error e →
      (∀ glyph key, e ≠ .unresolvedKey glyph key) ∧
      (((o.withPolicy .refuse).compile r : Report (Roster α)).outcome = .error e ∨
        e = .positionOverflow ∧ ∃ glyph key,
          ((o.withPolicy .refuse).compile r : Report (Roster α)).outcome =
            .error (.unresolvedKey glyph key))) ∧
    ∀ policy, ∀ t : Roster α, ((o.withPolicy policy).compile r).outcome = .ok t →
      t.unresolved = r.glyphs.flatMap fun g =>
        (g.mentions.filter fun key => key ∉ r.keys).map fun key => { glyph := g.key, key } := by
  have h := RosterOptions.compared_compile (α := α) o r
  refine ⟨fun t => h.strict_eq_ok_iff, fun t first rest => h.strict_eq_refusal,
    fun e => h.lenient_of_strict, fun e => h.strict_of_lenient, fun policy t ht => ?_⟩
  obtain ⟨n, hn⟩ := Roster.compiled_of_compile ht
  exact hn.unresolved_eq_flatMap

/-- A glyph that mentions two keys without a glyph. -/
def sampleMentions : Repertoire where
  glyphs := [{ Glyph.ofKey "a" with ligatures := some ["ab"], alternate := some "c" }]
  distinct := by decide

theorem compile_sampleMentions :
    ∃ t : Roster Int, ((RosterOptions.withPolicy {} .warn).compile sampleMentions).outcome = .ok t ∧
      t.unresolved = [⟨"a", "b"⟩, ⟨"a", "c"⟩] ∧
      ((RosterOptions.withPolicy {} .refuse).compile sampleMentions : Report (Roster Int)).outcome =
        .error (.unresolvedKey "a" "b") := by
  have hrun : ((RosterOptions.withPolicy {} .warn).compile sampleMentions :
      Report (Roster Int)).outcome.map Roster.unresolved = .ok [⟨"a", "b"⟩, ⟨"a", "c"⟩] := by
    cbv
  obtain ⟨t, ht, hunresolved⟩ := map_eq_ok.mp hrun
  obtain ⟨-, hrefused, -⟩ := compile_strict_and_lenient (α := Int) {} sampleMentions
  exact ⟨t, ht, hunresolved, hrefused t _ _ ht hunresolved⟩

end Gridface
