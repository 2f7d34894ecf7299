import Gridface.Proofs.Numbering.Outcome
import Gridface.Proofs.Report
import Gridface.Roster

/-!
# References to keys without a glyph

What the substitutions of a glyph are, apart from the policy: the missing glyph stands for every key
that no glyph has. The policy only decides whether the first such key ends the build.
-/

namespace Gridface

/-! ## The policy -/

namespace UnknownKeyPolicy

variable {policy : UnknownKeyPolicy} {α β : Type}

/-- The result `a` of following references that leaves some unresolved. -/
def judge (policy : UnknownKeyPolicy) (unresolved : List Reference) (a : α) : Except Fault α :=
  match policy, unresolved with
  | .refuse, first :: _ => .error (.unresolvedKey first.glyph first.key)
  | _, _ => .ok a

@[simp] theorem judge_nil (a : α) : policy.judge [] a = .ok a := by
  cases policy <;> rfl

/-- The first unresolved reference counts, whatever comes after. -/
theorem judge_bind {u v : List Reference} {a : α} {b : β} {f : α → Except Fault β}
    (h : f a = policy.judge v b) : policy.judge u a >>= f = policy.judge (u ++ v) b := by
  cases u with
  | nil => rwa [judge_nil]
  | cons first u =>
      cases policy with
      | warn => exact h
      | refuse => rfl

theorem judge_map {u : List Reference} {a : α} (f : α → β) :
    (policy.judge u a >>= fun a => .ok (f a)) = policy.judge u (f a) := by
  cases u with
  | nil => simp [bind, Except.bind]
  | cons first u => cases policy <;> rfl

theorem judge_eq_ok {u : List Reference} {a b : α} :
    policy.judge u a = .ok b ↔ (policy = .refuse → u = []) ∧ a = b := by
  cases u with
  | nil => simp
  | cons first u => cases policy <;> simp [judge]

end UnknownKeyPolicy

/-! ## The substitutions of a glyph -/

/-- The keys that a text mentions. -/
def spelling (text : String) : List String := text.toList.map Char.toString

/-- The keys that the substitutions of the glyph mention, in order. -/
def Glyph.mentions (g : Glyph) : List String :=
  (g.ligatures.getD []).flatMap spelling ++ g.alternate.toList

namespace Numbering

variable (n : Numbering)

/-- The id that stands for a key. -/
def source (key : String) : GlyphId := (n.find? key).getD GlyphId.notdef

/-- The mention of `key` by `glyph`, if no glyph has the key. -/
def missing (glyph key : String) : List Reference :=
  if (n.find? key).isNone then [{ glyph, key }] else []

/-- The ligatures that replace a text by the glyph `id`: there is none for the empty text. -/
def ligaturesFor (id : GlyphId) (text : String) : List Ligature :=
  if text.toList.isEmpty then []
  else [{ sequence := (spelling text).map n.source, replacement := id }]

/-- The substitutions of a glyph under the id `id`. -/
def linksOf (g : Glyph) (id : GlyphId) : Links where
  ligatures := (g.ligatures.getD []).flatMap (n.ligaturesFor id)
  alternates := g.alternate.toList.map fun key => { source := n.source key, replacement := id }
  unresolved := g.mentions.flatMap (n.missing g.key)

end Numbering

namespace Numbering.Numbers

variable {n : Numbering} {r : Repertoire} (h : n.Numbers r)

include h

theorem find?_eq_none_iff {key : String} : n.find? key = none ↔ key ∉ r.keys := by
  rw [← h.keys_eq, find?, List.lookup_eq_none_iff, List.mem_map]
  constructor
  · rintro hne ⟨p, hp, rfl⟩
    exact absurd (hne p hp) (by simp)
  · intro hnot p hp
    exact bne_iff_ne.mpr fun he => hnot ⟨p, hp, he.symm⟩

theorem mem_source {key : String} (hkey : key ∈ r.keys) : (key, n.source key) ∈ n.ids := by
  cases hfind : n.find? key with
  | none => exact absurd hkey (h.find?_eq_none_iff.mp hfind)
  | some id =>
      rw [source, hfind]
      exact (find?_eq_some_iff (h.keys_eq ▸ r.distinct)).mp hfind

theorem source_pos {key : String} (hkey : key ∈ r.keys) : 0 < n.source key :=
  (h.range _ (List.mem_map_of_mem (h.mem_source hkey))).1

theorem source_eq_notdef_iff {key : String} : n.source key = GlyphId.notdef ↔ key ∉ r.keys := by
  constructor
  · intro he hkey
    exact absurd he (Nat.ne_of_gt (h.source_pos hkey))
  · intro hkey
    rw [source, h.find?_eq_none_iff.mpr hkey]
    rfl

/-- A key is told by its id. -/
theorem source_inj {a b : String} (ha : a ∈ r.keys) (he : n.source b = n.source a) : b = a := by
  by_cases hb : b ∈ r.keys
  · exact congrArg Prod.fst
      (List.inj_on_of_nodup_map h.nodup (h.mem_source hb) (h.mem_source ha) he)
  · rw [h.source_eq_notdef_iff.mpr hb] at he
    exact absurd he (Nat.ne_of_lt (h.source_pos ha))

theorem ids_eq : n.ids.map Prod.snd = r.keys.map n.source := by
  rw [← h.keys_eq, List.map_map]
  refine List.map_congr_left fun p hp => ?_
  have hfind := (find?_eq_some_iff (h.keys_eq ▸ r.distinct)).mpr hp
  simp [source, hfind]

theorem missing_eq (glyph key : String) :
    n.missing glyph key = if key ∈ r.keys then [] else [{ glyph, key }] := by
  by_cases hkey : key ∈ r.keys
  · have hsome : n.find? key ≠ none := fun hnone => h.find?_eq_none_iff.mp hnone hkey
    rw [if_pos hkey, missing, if_neg]
    rwa [Option.isNone_iff_eq_none]
  · rw [if_neg hkey, missing, h.find?_eq_none_iff.mpr hkey]
    rfl

end Numbering.Numbers

theorem Links.append_eq (a b : Links) :
    a ++ b = ⟨a.ligatures ++ b.ligatures, a.alternates ++ b.alternates,
      a.unresolved ++ b.unresolved⟩ := rfl

namespace UnknownKeyPolicy

variable (policy : UnknownKeyPolicy) (n : Numbering) (glyph : String) (id : GlyphId)

theorem outcome_resolve (key : String) :
    (policy.resolve n glyph key).outcome =
      policy.judge (n.missing glyph key) (n.source key, n.missing glyph key) := by
  unfold resolve Numbering.source Numbering.missing
  cases n.find? key with
  | some id => exact (judge_nil _).symm
  | none => cases policy <;> rfl

theorem outcome_resolveAll (keys : List String) :
    (policy.resolveAll n glyph keys).outcome =
      policy.judge (keys.flatMap (n.missing glyph))
        (keys.map n.source, keys.flatMap (n.missing glyph)) := by
  induction keys with
  | nil => exact (judge_nil _).symm
  | cons key keys ih =>
      simp only [resolveAll, Report.outcome_bind, outcome_resolve, ih, Report.outcome_pure,
        List.flatMap_cons]
      exact judge_bind (judge_map _)

theorem outcome_ligature (text : String) :
    (policy.ligature n glyph id text).outcome =
      policy.judge ((spelling text).flatMap (n.missing glyph))
        { ligatures := n.ligaturesFor id text
          unresolved := (spelling text).flatMap (n.missing glyph) } := by
  unfold ligature Numbering.ligaturesFor spelling
  cases htext : text.toList with
  | nil => exact (judge_nil _).symm
  | cons c cs =>
      simp only [List.isEmpty_cons, Bool.false_eq_true, if_false, Report.outcome_bind,
        outcome_resolveAll, Report.outcome_pure]
      exact judge_map _

theorem outcome_ligatures (texts : List String) :
    (policy.ligatures n glyph id texts).outcome =
      policy.judge ((texts.flatMap spelling).flatMap (n.missing glyph))
        { ligatures := texts.flatMap (n.ligaturesFor id)
          unresolved := (texts.flatMap spelling).flatMap (n.missing glyph) } := by
  induction texts with
  | nil => exact (judge_nil _).symm
  | cons text texts ih =>
      simp only [ligatures, Report.outcome_bind, outcome_ligature, ih, Report.outcome_pure,
        List.flatMap_cons, List.flatMap_append]
      exact judge_bind (judge_map _)

theorem outcome_alternate (alternate : Option String) :
    (policy.alternate n glyph id alternate).outcome =
      policy.judge (alternate.toList.flatMap (n.missing glyph))
        { alternates :=
            alternate.toList.map fun key => { source := n.source key, replacement := id }
          unresolved := alternate.toList.flatMap (n.missing glyph) } := by
  cases alternate with
  | none => exact (judge_nil _).symm
  | some key =>
      simp only [UnknownKeyPolicy.alternate, Report.outcome_bind, outcome_resolve,
        Report.outcome_pure, Option.toList_some, List.flatMap_singleton, List.map_singleton]
      exact judge_map _

/-- The substitutions of a glyph, unless the policy refuses them. -/
theorem outcome_links (g : Glyph) :
    (policy.links n g id).outcome =
      policy.judge (n.linksOf g id).unresolved (n.linksOf g id) := by
  have hparts : n.linksOf g id =
      ⟨(g.ligatures.getD []).flatMap (n.ligaturesFor id), [],
        ((g.ligatures.getD []).flatMap spelling).flatMap (n.missing g.key)⟩ ++
      ⟨[], g.alternate.toList.map fun key => { source := n.source key, replacement := id },
        g.alternate.toList.flatMap (n.missing g.key)⟩ := by
    simp [Numbering.linksOf, Links.append_eq, Glyph.mentions]
  rw [hparts]
  simp only [links, Report.outcome_bind, outcome_ligatures, outcome_alternate, Report.outcome_pure]
  exact judge_bind (judge_map _)

end UnknownKeyPolicy

end Gridface
