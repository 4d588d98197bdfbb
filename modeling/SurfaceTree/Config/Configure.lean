/-
Configuring a pattern: taking away what its configuration attributes rule out.

Only the fields of struct patterns and their rest markers carry attributes.  A field one of whose
conditions is false is stripped and keeps its slot; a rest marker is taken away.  What stays loses
the attributes that state conditions, and the pattern of a field that stays is configured in turn.

Main definitions:

* `Config.enabled` — whether all conditions among some attributes hold;
* `Config.settled` — the attributes that state no condition;
* `Pattern.configure` — the configured pattern, with the counts of what was stripped.

A pattern is configured as a whole or not at all: the first attribute that makes no sense, in the
order in which attributes are looked at, is the result.  An attribute after a false one, or below a
field that is stripped, is not looked at.
-/

import SurfaceTree.Config.Predicate
import SurfaceTree.Config.Stats
import SurfaceTree.Pattern.Stripped

set_option relaxedAutoImplicit false
set_option autoImplicit false

namespace SurfaceTree

namespace Config

/-- All conditions among the attributes hold.  Attributes are looked at from left to right, up to
the first condition that is false. -/
def enabled (o : Options) : List Attribute → Except ConfigError Bool
  | [] => pure true
  | a :: as => do
      match ← Predicate.ofAttribute a with
      | none => enabled o as
      | some p => if p.holds o then enabled o as else pure false

/-- The attributes that state no condition. -/
def settled (as : List Attribute) : List Attribute :=
  as.filter fun a => !a.hasName Predicate.attributeName

/-- The rest marker with its attributes, where it is absent or present, after configuration. -/
def configureRest (o : Options) (hasRest : Bool) (as : List Attribute) :
    Except ConfigError ((Bool × List Attribute) × Stats) := do
  if hasRest then
    if ← enabled o as then pure ((true, settled as), 0) else pure ((false, []), Stats.oneRest)
  else pure ((false, as), 0)

end Config

open Config

mutual

/-- The pattern that a configuration leaves, and what it has taken away. -/
def Pattern.configure (o : Options) : Pattern → Except ConfigError (Pattern × Stats)
  | .literal v m s => pure (.literal v m s, 0)
  | .ident x r m bind s => do
      let (bind, n) ← Pattern.configureOption o bind
      pure (.ident x r m bind s, n)
  | .wildcard s => pure (.wildcard s, 0)
  | .range l u e s => pure (.range l u e s, 0)
  | .reference inner a m s => do
      let (inner, n) ← inner.configure o
      pure (.reference inner a m s, n)
  | .struct path elems => do
      let (elems, n) ← elems.configure o
      pure (.struct path elems, n)
  | .tupleStruct path items => do
      let (items, n) ← Items.configureOption o items
      pure (.tupleStruct path items, n)
  | .tuple items s => do
      let (items, n) ← Items.configureOption o items
      pure (.tuple items s, n)
  | .grouped inner s => do
      let (inner, n) ← inner.configure o
      pure (.grouped inner s, n)
  | .slice items s => do
      let (items, n) ← Pattern.configureAll o items
      pure (.slice items s, n)

/-- The patterns of a list, configured from left to right. -/
def Pattern.configureAll (o : Options) :
    List Pattern → Except ConfigError (List Pattern × Stats)
  | [] => pure ([], 0)
  | p :: ps => do
      let (p, n) ← p.configure o
      let (ps, k) ← Pattern.configureAll o ps
      pure (p :: ps, n + k)

/-- An optional pattern, configured if it is there. -/
def Pattern.configureOption (o : Options) :
    Option Pattern → Except ConfigError (Option Pattern × Stats)
  | none => pure (none, 0)
  | some p => do
      let (p, n) ← p.configure o
      pure (some p, n)

/-- The fields from left to right, and then the rest marker. -/
def Elements.configure (o : Options) : Elements → Except ConfigError (Elements × Stats)
  | ⟨fields, hasRest, restAttrs⟩ => do
      let (fields, n) ← Field.configureAll o fields
      let ((hasRest, restAttrs), k) ← configureRest o hasRest restAttrs
      pure (⟨fields, hasRest, restAttrs⟩, n + k)

/-- A field that was stripped before stays as it is.  Any other is stripped if a condition is
false, and goes on without its conditions if none is. -/
def Field.configure (o : Options) : Field → Except ConfigError (Field × Stats)
  | .indexed i none as s => pure (.indexed i none as s, 0)
  | .indexed i (some p) as s => do
      if ← enabled o as then
        let (p, n) ← p.configure o
        pure (.indexed i (some p) (settled as) s, n)
      else pure (.indexed i none as s, Stats.oneField)
  | .named x none as s => pure (.named x none as s, 0)
  | .named x (some p) as s => do
      if ← enabled o as then
        let (p, n) ← p.configure o
        pure (.named x (some p) (settled as) s, n)
      else pure (.named x none as s, Stats.oneField)
  | .shorthand x r m as s => do
      if x.isEmpty then pure (.shorthand x r m as s, 0)
      else if ← enabled o as then pure (.shorthand x r m (settled as) s, 0)
      else pure (.shorthand .empty r m as s, Stats.oneField)

/-- The fields of a list, configured from left to right. -/
def Field.configureAll (o : Options) : List Field → Except ConfigError (List Field × Stats)
  | [] => pure ([], 0)
  | f :: fs => do
      let (f, n) ← f.configure o
      let (fs, k) ← Field.configureAll o fs
      pure (f :: fs, n + k)

/-- The items of a list, those before the rest marker first. -/
def Items.configure (o : Options) : Items → Except ConfigError (Items × Stats)
  | .flat patterns s => do
      let (patterns, n) ← Pattern.configureAll o patterns
      pure (.flat patterns s, n)
  | .ranged lower upper s => do
      let (lower, n) ← Pattern.configureAll o lower
      let (upper, k) ← Pattern.configureAll o upper
      pure (.ranged lower upper s, n + k)

/-- An optional list of items, configured if it is there. -/
def Items.configureOption (o : Options) :
    Option Items → Except ConfigError (Option Items × Stats)
  | none => pure (none, 0)
  | some items => do
      let (items, n) ← items.configure o
      pure (some items, n)

end

end SurfaceTree
