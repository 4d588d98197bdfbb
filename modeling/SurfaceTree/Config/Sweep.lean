/-
A sweep: configuration with a running count.

`Pattern.configure` answers with what it has taken away.  A sweep counts it instead, the moment it
is taken away, in a count that it shares with whatever was swept before.  What comes later in the
tree may still fail; then the count has grown although no pattern has been configured, and whoever
started the sweep has to put it back.

Main definitions:

* `Config.Sweep` — work that may fail and that counts as it goes;
* `Config.Sweep.count` — one more thing taken away;
* `Pattern.sweep` and its companions — the sweep of each family.
-/

import SurfaceTree.Config.Configure

set_option relaxedAutoImplicit false
set_option autoImplicit false

namespace SurfaceTree

namespace Config

/-- Work that may fail and that counts as it goes.  A failure does not take the count back. -/
abbrev Sweep := ExceptT ConfigError (StateM Stats)

/-- Counts what has just been taken away. -/
def Sweep.count (n : Stats) : Sweep Unit := modify (· + n)

/-- The rest marker with its attributes, where it is absent or present, after a sweep. -/
def sweepRest (o : Options) (hasRest : Bool) (as : List Attribute) :
    Sweep (Bool × List Attribute) := do
  if hasRest then
    if ← enabled o as then pure (true, settled as)
    else
      Sweep.count .oneRest
      pure (false, [])
  else pure (false, as)

end Config

open Config

mutual

/-- The pattern that a configuration leaves, counted as it goes. -/
def Pattern.sweep (o : Options) : Pattern → Sweep Pattern
  | .literal v m s => pure (.literal v m s)
  | .ident x r m bind s => do
      let bind ← Pattern.sweepOption o bind
      pure (.ident x r m bind s)
  | .wildcard s => pure (.wildcard s)
  | .range l u e s => pure (.range l u e s)
  | .reference inner a m s => do
      let inner ← inner.sweep o
      pure (.reference inner a m s)
  | .struct path elems => do
      let elems ← elems.sweep o
      pure (.struct path elems)
  | .tupleStruct path items => do
      let items ← Items.sweepOption o items
      pure (.tupleStruct path items)
  | .tuple items s => do
      let items ← Items.sweepOption o items
      pure (.tuple items s)
  | .grouped inner s => do
      let inner ← inner.sweep o
      pure (.grouped inner s)
  | .slice items s => do
      let items ← Pattern.sweepAll o items
      pure (.slice items s)

/-- The patterns of a list, swept from left to right. -/
def Pattern.sweepAll (o : Options) : List Pattern → Sweep (List Pattern)
  | [] => pure []
  | p :: ps => do
      let p ← p.sweep o
      let ps ← Pattern.sweepAll o ps
      pure (p :: ps)

/-- An optional pattern, swept if it is there. -/
def Pattern.sweepOption (o : Options) : Option Pattern → Sweep (Option Pattern)
  | none => pure none
  | some p => do
      let p ← p.sweep o
      pure (some p)

/-- The fields from left to right, and then the rest marker. -/
def Elements.sweep (o : Options) : Elements → Sweep Elements
  | ⟨fields, hasRest, restAttrs⟩ => do
      let fields ← Field.sweepAll o fields
      let (hasRest, restAttrs) ← sweepRest o hasRest restAttrs
      pure ⟨fields, hasRest, restAttrs⟩

/-- A field is counted the moment it is stripped, whatever comes after it. -/
def Field.sweep (o : Options) : Field → Sweep Field
  | .indexed i none as s => pure (.indexed i none as s)
  | .indexed i (some p) as s => do
      if ← enabled o as then
        let p ← p.sweep o
        pure (.indexed i (some p) (settled as) s)
      else
        Sweep.count .oneField
        pure (.indexed i none as s)
  | .named x none as s => pure (.named x none as s)
  | .named x (some p) as s => do
      if ← enabled o as then
        let p ← p.sweep o
        pure (.named x (some p) (settled as) s)
      else
        Sweep.count .oneField
        pure (.named x none as s)
  | .shorthand x r m as s => do
      if x.isEmpty then pure (.shorthand x r m as s)
      else if ← enabled o as then pure (.shorthand x r m (settled as) s)
      else
        Sweep.count .oneField
        pure (.shorthand .empty r m as s)

/-- The fields of a list, swept from left to right. -/
def Field.sweepAll (o : Options) : List Field → Sweep (List Field)
  | [] => pure []
  | f :: fs => do
      let f ← f.sweep o
      let fs ← Field.sweepAll o fs
      pure (f :: fs)

/-- The items of a list, those before the rest marker first. -/
def Items.sweep (o : Options) : Items → Sweep Items
  | .flat patterns s => do
      let patterns ← Pattern.sweepAll o patterns
      pure (.flat patterns s)
  | .ranged lower upper s => do
      let lower ← Pattern.sweepAll o lower
      let upper ← Pattern.sweepAll o upper
      pure (.ranged lower upper s)

/-- An optional list of items, swept if it is there. -/
def Items.sweepOption (o : Options) : Option Items → Sweep (Option Items)
  | none => pure none
  | some items => do
      let items ← items.sweep o
      pure (some items)

end

end SurfaceTree
