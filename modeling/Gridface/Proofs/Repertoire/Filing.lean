import Gridface.Proofs.Cartouche.Synthesis
import Gridface.Proofs.Repertoire.Merging
import Gridface.Repertoire.Edits

/-!
# Glyphs filed under any key

A filing holds values under keys, in order of first mention, and nothing ties a value to its key.
Here the edits of a repertoire are carried out on such a filing of glyphs, one entry at a time. As
every edit files a glyph under the key that the glyph itself has, no filing other than that of a
repertoire ever comes about.
-/

namespace Gridface

variable {α : Type}

/-! ## Filings -/

/-- Values filed under keys. -/
abbrev Filing (α : Type) : Type := List (String × α)

namespace Filing

variable {before after : Filing α} {key : String} {a : α} {f : α → α}

/-- The keys, in order. -/
def keys (files : Filing α) : List String := files.map Prod.fst

/-- Files `a` under `key`: in the place of what is filed there, or else behind all others. -/
def file (key : String) (a : α) : Filing α → Filing α
  | [] => [(key, a)]
  | e :: files => if e.1 = key then (key, a) :: files else e :: file key a files

/-- Changes what is filed under `key`. -/
def alter (key : String) (f : α → α) : Filing α → Filing α
  | [] => []
  | e :: files => if e.1 = key then (e.1, f e.2) :: files else e :: alter key f files

/-- Files pairs, one after the other. -/
def ofPairs (pairs : List (String × α)) : Filing α :=
  pairs.foldl (fun files p => file p.1 p.2 files) []

theorem file_of_not_mem {files : Filing α} (h : key ∉ files.keys) :
    file key a files = files ++ [(key, a)] := by
  induction files with
  | nil => rfl
  | cons e files ih =>
      rw [keys, List.map_cons, List.mem_cons, not_or] at h
      rw [file, if_neg (Ne.symm h.1), ih h.2, List.cons_append]

theorem alter_append (h : key ∉ before.keys) :
    alter key f (before ++ (key, a) :: after) = before ++ (key, f a) :: after := by
  induction before with
  | nil => exact if_pos rfl
  | cons e before ih =>
      rw [keys, List.map_cons, List.mem_cons, not_or] at h
      rw [List.cons_append, alter, if_neg (Ne.symm h.1), ih h.2, List.cons_append]

theorem ofPairs_eq {pairs : Filing α} (h : pairs.keys.Nodup) : ofPairs pairs = pairs := by
  induction pairs using List.reverseRecOn with
  | nil => rfl
  | append_singleton pairs p ih =>
      rw [keys, List.map_append, List.map_singleton, List.nodup_append] at h
      have hnew : p.1 ∉ keys pairs := fun hmem => h.2.2 p.1 hmem p.1 List.mem_cons_self rfl
      rw [ofPairs, List.foldl_append, ← ofPairs, ih h.1]
      exact file_of_not_mem hnew

/-! ## Edits of a filing of glyphs -/

/-- Merges one layer. -/
def mergeLayer (o : MergeOptions) (files : Filing Glyph) (layer : Layer) : Filing Glyph :=
  let key := o.keyOf layer.name
  files.file key (o.draw layer.bitmap ((files.lookup key).getD (Glyph.ofKey key)))

/-- Spells a word out if it has no ligatures: the glyph to change is looked up by the word's key. -/
def spell (s : CartoucheStyle) (files : Filing Glyph) (g : Glyph) : Filing Glyph :=
  match s.word? g.name, g.ligatures with
  | some word, none => files.alter g.key fun target => { target with ligatures := some [word] }
  | _, _ => files

/-- Spells the words out while walking over what is filed, and then files the forms. -/
def synthesize (s : CartoucheStyle) (files : Filing Glyph) : Except Fault (Filing Glyph) := do
  let glyphs := files.map Prod.snd
  let forms ← (glyphs.filter s.wantsForm).mapM s.form
  return forms.foldl (fun out form => out.file form.key form) (glyphs.foldl (spell s) files)

/-- What becomes of the filing by an edit. -/
def edit (files : Filing Glyph) : Edit → Except Fault (Filing Glyph)
  | .merge o layers => return layers.foldl (mergeLayer o) files
  | .mergeSheet o sheet => return (← sheet.layers).foldl (mergeLayer o) files
  | .insert g => return files.file g.key g
  | .update key f => return files.alter key fun g => { f g with key := g.key }
  | .synthesize s => files.synthesize s

/-- The filing to go on with after an edit. -/
def edited (files : Filing Glyph) (e : Edit) : Filing Glyph := (files.edit e).toOption.getD files

/-- The filing that edits begin with. -/
def start : Option Annotations → Except Fault (Filing Glyph)
  | none => .ok []
  | some a => do
    let pairs ← a.entries.mapM fun e => (e.2.toGlyph e.1).map (e.1, ·)
    return ofPairs pairs

end Filing

/-! ## The filing of a repertoire -/

/-- Each glyph under its own key. -/
def filedGlyphs (gs : List Glyph) : Filing Glyph := gs.map fun g => (g.key, g)

theorem keys_filedGlyphs (gs : List Glyph) : (filedGlyphs gs).keys = gs.map Glyph.key := by
  rw [Filing.keys, filedGlyphs, List.map_map]
  rfl

theorem values_filedGlyphs (gs : List Glyph) : (filedGlyphs gs).map Prod.snd = gs := by
  rw [filedGlyphs, List.map_map]
  exact List.map_id gs

theorem lookup_filedGlyphs (gs : List Glyph) (key : String) :
    (filedGlyphs gs).lookup key = gs.find? (·.key == key) := by
  induction gs with
  | nil => rfl
  | cons g gs ih =>
      rw [filedGlyphs, List.map_cons, List.lookup_cons, List.find?_cons, BEq.comm, ← filedGlyphs,
        ih]

theorem file_filedGlyphs (g : Glyph) (gs : List Glyph) :
    (filedGlyphs gs).file g.key g = filedGlyphs (Repertoire.put g gs) := by
  induction gs with
  | nil => rfl
  | cons h gs ih =>
      rw [filedGlyphs, List.map_cons, Filing.file, Repertoire.put, ← filedGlyphs, ih]
      split <;> rfl

theorem alter_filedGlyphs {gs : List Glyph} (hnodup : (gs.map Glyph.key).Nodup) (key : String)
    {f : Glyph → Glyph} (keeps : ∀ g, (f g).key = g.key) :
    (filedGlyphs gs).alter key f =
      filedGlyphs (gs.map fun g => if g.key = key then f g else g) := by
  induction gs with
  | nil => rfl
  | cons g gs ih =>
      rw [List.map_cons, List.nodup_cons] at hnodup
      obtain ⟨hnew, hnodup⟩ := hnodup
      rw [filedGlyphs, List.map_cons, Filing.alter, List.map_cons, ← filedGlyphs, ih hnodup]
      by_cases hkey : g.key = key
      · have hrest : (gs.map fun h => if h.key = key then f h else h) = gs := by
          refine (List.map_congr_left fun h hh => if_neg fun hsame => ?_).trans (List.map_id gs)
          exact hnew (hkey ▸ hsame ▸ List.mem_map_of_mem hh)
        rw [if_pos hkey, if_pos hkey, hrest, filedGlyphs, filedGlyphs, List.map_cons, keeps]
      · rw [if_neg hkey, if_neg hkey]
        rfl

theorem spell_filedGlyphs {before after : List Glyph} {g : Glyph} (s : CartoucheStyle)
    (hnew : g.key ∉ before.map Glyph.key) :
    Filing.spell s (filedGlyphs (before ++ g :: after)) g =
      filedGlyphs (before ++ s.spelled g :: after) := by
  unfold Filing.spell
  cases hword : s.word? g.name with
  | none => rw [CartoucheStyle.spelled_of_kept (Or.inl hword)]
  | some word =>
      cases hligatures : g.ligatures with
      | some texts => rw [CartoucheStyle.spelled_of_kept (Or.inr (by simp [hligatures]))]
      | none =>
          rw [CartoucheStyle.spelled_of_word hword hligatures]
          rw [← keys_filedGlyphs] at hnew
          simp only [filedGlyphs, List.map_append, List.map_cons]
          exact Filing.alter_append hnew

theorem foldl_spell (s : CartoucheStyle) (before after : List Glyph)
    (hnodup : ((before ++ after).map Glyph.key).Nodup) :
    after.foldl (Filing.spell s) (filedGlyphs (before.map s.spelled ++ after)) =
      filedGlyphs ((before ++ after).map s.spelled) := by
  -- what is in `before` is spelled out already, under the keys that it had
  induction after generalizing before with
  | nil => rw [List.foldl_nil, List.append_nil, List.append_nil]
  | cons g after ih =>
      have hkeys : (before.map s.spelled).map Glyph.key = before.map Glyph.key := by
        rw [List.map_map]
        rfl
      have hnew : g.key ∉ (before.map s.spelled).map Glyph.key := by
        rw [hkeys]
        rw [List.map_append, List.map_cons, List.nodup_append] at hnodup
        exact fun hmem => hnodup.2.2 _ hmem _ List.mem_cons_self rfl
      have hsplit : before ++ g :: after = (before ++ [g]) ++ after := by simp
      rw [List.foldl_cons, spell_filedGlyphs s hnew, hsplit, ← ih (before ++ [g]) (hsplit ▸ hnodup)]
      simp

theorem foldl_file (gs : List Glyph) (r : Repertoire) :
    gs.foldl (fun out g => Filing.file g.key g out) (filedGlyphs r.glyphs) =
      filedGlyphs (gs.foldl Repertoire.insert r).glyphs := by
  induction gs generalizing r with
  | nil => rfl
  | cons g gs ih =>
      rw [List.foldl_cons, file_filedGlyphs, List.foldl_cons, ← ih]
      rfl

theorem key_of_toGlyph {o : Overrides} {key : String} {g : Glyph} (h : o.toGlyph key = .ok g) :
    g.key = key := by
  unfold Overrides.toGlyph at h
  cases hchar : o.codePoint.mapM (Overrides.character key) with
  | error e =>
      rw [hchar] at h
      cases h
  | ok c =>
      rw [hchar] at h
      cases h
      rfl

theorem mapM_filedGlyphs (es : List (String × Overrides)) :
    (es.mapM fun e : String × Overrides => (e.2.toGlyph e.1).map fun g => (e.1, g)) =
      (es.mapM fun e : String × Overrides => e.2.toGlyph e.1).map filedGlyphs := by
  induction es with
  | nil => rfl
  | cons e es ih =>
      obtain ⟨key, o⟩ := e
      rw [List.mapM_cons, List.mapM_cons, ih]
      cases hg : o.toGlyph key with
      | error fault => rfl
      | ok g =>
          obtain rfl := key_of_toGlyph hg
          cases es.mapM fun e : String × Overrides => e.2.toGlyph e.1 with
          | error fault => rfl
          | ok gs => rfl

theorem keys_of_mapM {es : List (String × Overrides)} {gs : List Glyph}
    (h : (es.mapM fun e => e.2.toGlyph e.1) = .ok gs) : gs.map Glyph.key = es.map Prod.fst := by
  rw [mapM_eq_ok] at h
  induction es generalizing gs with
  | nil => rw [List.map_eq_nil_iff.mp h]; rfl
  | cons e es ih =>
      obtain ⟨g, gs, rfl, hg, hgs⟩ := List.map_eq_cons_iff.mp h
      rw [List.map_cons, List.map_cons, ih hgs, key_of_toGlyph hg.symm]

namespace Repertoire

/-- Each glyph of the repertoire under its key. -/
def filed (r : Repertoire) : Filing Glyph := filedGlyphs r.glyphs

theorem keys_filed (r : Repertoire) : r.filed.keys = r.keys := keys_filedGlyphs r.glyphs

theorem mergeLayer_filed (o : MergeOptions) (r : Repertoire) (layer : Layer) :
    Filing.mergeLayer o r.filed layer = (r.mergeLayer o layer).filed := by
  have hfound : (r.filed.lookup (o.keyOf layer.name)).getD (Glyph.ofKey (o.keyOf layer.name)) =
      r.orNew (o.keyOf layer.name) := by
    rw [filed, lookup_filedGlyphs]
    rfl
  have hkey : (o.draw layer.bitmap (r.orNew (o.keyOf layer.name))).key = o.keyOf layer.name :=
    key_orNew r (o.keyOf layer.name)
  have hfile := file_filedGlyphs (o.draw layer.bitmap (r.orNew (o.keyOf layer.name))) r.glyphs
  rw [hkey] at hfile
  show r.filed.file (o.keyOf layer.name) (o.draw layer.bitmap
    ((r.filed.lookup (o.keyOf layer.name)).getD (Glyph.ofKey (o.keyOf layer.name)))) = _
  rw [hfound]
  exact hfile

theorem merge_filed (o : MergeOptions) (r : Repertoire) (layers : List Layer) :
    layers.foldl (Filing.mergeLayer o) r.filed = (r.merge o layers).filed := by
  unfold merge
  induction layers generalizing r with
  | nil => rfl
  | cons layer layers ih => rw [List.foldl_cons, mergeLayer_filed, ih, List.foldl_cons]

theorem change_filed (r : Repertoire) (key : String) (f : Glyph → Glyph) :
    (r.filed.alter key fun g => { f g with key := g.key }) = (r.change key f).filed :=
  alter_filedGlyphs r.distinct key fun _ => rfl

theorem synthesize_filed (s : CartoucheStyle) (r : Repertoire) :
    r.filed.synthesize s = (r.synthesize s).outcome.map filed := by
  have hspelled : r.glyphs.foldl (Filing.spell s) r.filed = (r.spelled s).filed :=
    foldl_spell s [] r.glyphs r.distinct
  rw [outcome_synthesize, Filing.synthesize, filed, values_filedGlyphs, ← filed, hspelled, ← forms]
  cases r.forms s with
  | error e => rfl
  | ok forms => exact congrArg Except.ok (foldl_file forms (r.spelled s))

theorem outcome_mergeSheet (r : Repertoire) (o : MergeOptions) (sheet : Sheet) :
    (r.edit (.mergeSheet o sheet)).outcome = sheet.layers.map (r.merge o) := by
  unfold edit
  rw [Report.outcome_bind, Report.outcome_liftM]
  cases sheet.layers with
  | error e => rfl
  | ok layers => rfl

/-- An edit does the same to the repertoire and to its filing. -/
theorem edit_filed (r : Repertoire) (e : Edit) :
    r.filed.edit e = (r.edit e).outcome.map filed := by
  cases e with
  | merge o layers => exact congrArg Except.ok (merge_filed o r layers)
  | mergeSheet o sheet =>
      rw [outcome_mergeSheet, Filing.edit]
      cases sheet.layers with
      | error e => rfl
      | ok layers => exact congrArg Except.ok (merge_filed o r layers)
  | insert g => exact congrArg Except.ok (file_filedGlyphs g r.glyphs)
  | update key f => exact congrArg Except.ok (change_filed r key f)
  | synthesize s => exact synthesize_filed s r

theorem edited_filed (r : Repertoire) (e : Edit) : r.filed.edited e = (r.edited e).filed := by
  unfold Filing.edited edited
  rw [edit_filed]
  cases (r.edit e).outcome with
  | error e => rfl
  | ok r' => rfl

theorem start_filed (a : Option Annotations) : Filing.start a = (start a).map filed := by
  cases a with
  | none => rfl
  | some a =>
      show (a.entries.mapM fun e => (e.2.toGlyph e.1).map fun g => (e.1, g)) >>= _ =
        (ofAnnotations a).map filed
      rw [mapM_filedGlyphs, ofAnnotations]
      cases hglyphs : a.entries.mapM fun e => e.2.toGlyph e.1 with
      | error e => rfl
      | ok gs =>
          have hnodup : (gs.map Glyph.key).Nodup := keys_of_mapM hglyphs ▸ a.distinct
          have hpairs : Filing.ofPairs (filedGlyphs gs) = filedGlyphs gs :=
            Filing.ofPairs_eq (by rwa [keys_filedGlyphs])
          have hlist : (ofList gs).filed = filedGlyphs gs :=
            congrArg filedGlyphs (glyphs_ofList hnodup)
          exact congrArg Except.ok (hpairs.trans hlist.symm)

end Repertoire

end Gridface
