import Gridface.Notice
import Gridface.Substitution.Builders

/-!
# Lookups

A font carries its substitutions in lookups of one kind each, and names features that apply them.
A ligature that contradicts one before it is left out; an alternate takes the place of one before
it.
-/

namespace Gridface

/-! ## Ligatures -/

namespace Ligature

/-- Adds ligatures to what a builder holds, in order; one that it does not agree to is left out. -/
def addAll (b : Builder Ligature) (s : b.State) : List Ligature → b.State × List Notice
  | [] => (s, [])
  | l :: ls =>
    if b.canAdd s l then addAll b (b.insert s l) ls
    else
      let (s, notices) := addAll b s ls
      (s, .repeatedLigature l.sequence l.replacement :: notices)

/-- The items of a ligature lookup, in the order in which they are tried. -/
def items (b : Builder Ligature) (ligatures : List Ligature) : List Ligature × List Notice :=
  let (s, notices) := addAll b b.empty (ligatures.filter fun l => !l.sequence.isEmpty)
  (b.build s, notices)

end Ligature

/-! ## Alternates -/

namespace Alternate

/-- Adds alternates to what a builder holds, in order, whether it agrees to them or not. -/
def addAll (b : Builder Alternate) (s : b.State) : List Alternate → b.State × List Notice
  | [] => (s, [])
  | a :: as =>
    let (t, notices) := addAll b (b.insert s a) as
    (t, if b.canAdd s a then notices else .severalAlternates a.source a.replacement :: notices)

/-- The items of an alternate lookup. -/
def items (b : Builder Alternate) (alternates : List Alternate) : List Alternate × List Notice :=
  let (s, notices) := addAll b b.empty alternates
  (b.build s, notices)

end Alternate

/-! ## Contextual rules -/

/-- Whether the rule can ever apply: none of its sets is empty. -/
def ContextRule.applies (r : ContextRule) : Bool :=
  !r.input.isEmpty && (r.backtrack ++ r.lookahead).all fun s => !s.isEmpty

/-! ## Lookups and features -/

/-- The substitutions of one kind. -/
inductive Lookup
  | ligatures (items : List Ligature)
  | alternates (items : List Alternate)
  /-- Rules that apply the lookup with the given index at the first position of their input. -/
  | contextual (rules : List ContextRule) (lookup : Nat)
  deriving DecidableEq, Repr

/-- A feature applies one lookup, by its index. -/
structure Feature where
  tag : String
  lookup : Nat
  deriving DecidableEq, Repr

/-- The lookups of a font, and its features in the order of their tags. -/
structure Substitutions where
  lookups : List Lookup
  features : List Feature
  deriving DecidableEq, Repr

namespace Substitutions

/-- The script whose features are applied where no other is named. -/
def script : String := "DFLT"

/-- The index that stands for no feature. -/
def noRequiredFeature : Nat := 65535

/-- The features that the default language applies, by their indices: all of them. -/
def defaultFeatures (s : Substitutions) : List Nat := List.range s.features.length

/-- Adds a lookup with the feature that applies it, unless it holds nothing. -/
def add (tag : String) (lookup : Option Lookup) (s : Substitutions) : Substitutions :=
  match lookup with
  | none => s
  | some lookup =>
    { lookups := s.lookups ++ [lookup]
      features := s.features ++ [{ tag, lookup := s.lookups.length }] }

/-- The lookup of the given items, if there are any. -/
def ligatureLookup? (items : List Ligature) : Option Lookup :=
  if items.isEmpty then none else some (.ligatures items)

/-- The lookup of the given items, if there are any. -/
def alternateLookup? (items : List Alternate) : Option Lookup :=
  if items.isEmpty then none else some (.alternates items)

/-- The lookup of the rules that can apply, if there are any. -/
def contextLookup? (rules : List ContextRule) (lookup : Nat) : Option Lookup :=
  let rules := rules.filter ContextRule.applies
  if rules.isEmpty then none else some (.contextual rules lookup)

/-- The lookups for the given items: ligatures first, then alternates, then the rules that apply
the alternates. -/
def ofItems (ligatures : List Ligature) (alternates : List Alternate) (rules : List ContextRule) :
    Substitutions :=
  let s : Substitutions := { lookups := [], features := [] }
  let s := s.add "liga" (ligatureLookup? ligatures)
  if alternates.isEmpty then s
  else
    let index := s.lookups.length
    (s.add "salt" (alternateLookup? alternates)).add "calt" (contextLookup? rules index)

/-- The features in the order of their tags. -/
def sorted (s : Substitutions) : Substitutions :=
  { s with features := s.features.mergeSort fun a b => a.tag ≤ b.tag }

/-- The substitutions of a font, if there are any, with the notices given on the way. -/
def compile (ligatures : List Ligature) (alternates : List Alternate) (rules : List ContextRule)
    (builders : Builders := .standard) : Option Substitutions × List Notice :=
  let (ligatures, ligatureNotices) := Ligature.items builders.ligatures ligatures
  let (alternates, alternateNotices) := Alternate.items builders.alternates alternates
  let s := ofItems ligatures alternates rules
  (if s.lookups.isEmpty then none else some s.sorted,
    ligatureNotices ++ alternateNotices ++
      if alternates.isEmpty && !rules.isEmpty then [.idleRules] else [])

end Substitutions

end Gridface
