/-
Lifetimes and the `for<..>` binders that introduce them.

Main definitions:

* `Lifetime` — a named, the static or the anonymous lifetime;
* `LifetimeParam` — a lifetime that a binder introduces, with the lifetimes it outlives;
* `LifetimeParam.renderBinder` — the binder in front of a bound or a function type.

Main results:

* `LifetimeParam.render_eq_intercalate` — between the lifetimes that a lifetime outlives there are
  plus signs.
-/

import SurfaceTree.Ident
import SurfaceTree.Span
import SurfaceTree.Text.Separated

set_option relaxedAutoImplicit false
set_option autoImplicit false

namespace SurfaceTree

/-- What a lifetime is called. -/
inductive LifetimeName where
  /-- A name of its own. -/
  | named (name : Ident)
  /-- The lifetime of the whole program. -/
  | static
  /-- A lifetime left to be inferred. -/
  | wildcard
deriving DecidableEq, Inhabited

/-- The name after the tick. -/
def LifetimeName.text : LifetimeName → String
  | .named x => x.text
  | .static => "static"
  | .wildcard => "_"

/-- An occurrence of a lifetime. -/
structure Lifetime where
  name : LifetimeName
  span : Span
deriving DecidableEq, Inhabited

/-- A tick and the name. -/
def Lifetime.render (l : Lifetime) : String := "'" ++ l.name.text

/-- A lifetime introduced by a binder. -/
structure LifetimeParam where
  /-- The lifetime introduced. -/
  lifetime : Lifetime
  /-- The lifetimes it outlives. -/
  bounds : List Lifetime
  span : Span
deriving DecidableEq, Inhabited

namespace LifetimeParam

/-- The lifetime, and the lifetimes it outlives: the first comes after a colon, the others after a
plus sign each. -/
def render (p : LifetimeParam) : String :=
  Text.writeFrom (fun i => if i = 0 then ": " else " + ") p.lifetime.render 0
    (p.bounds.map Lifetime.render)

/-- The binder of some lifetimes and a blank, or nothing if there are none. -/
def renderBinder : List LifetimeParam → String
  | [] => ""
  | params => "for<" ++ Text.separated ", " (params.map render) ++ "> "

/-- The colon is written only if there are lifetimes after it. -/
theorem render_eq_intercalate (p : LifetimeParam) :
    p.render = p.lifetime.render ++ (if p.bounds.isEmpty then "" else ": ") ++
      " + ".intercalate (p.bounds.map Lifetime.render) := by
  rw [render]
  cases p.bounds with
  | nil => simp [Text.writeFrom]
  | cons bound bounds =>
      rw [List.map_cons, Text.writeFrom_cons fun i => if_neg (Nat.succ_ne_zero i)]
      rfl

end LifetimeParam

end SurfaceTree
