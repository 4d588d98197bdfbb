/-
Identifiers.

Main definitions:

* `Ident` — the name of a binding, a field or a path segment;
* `Ident.empty` — the marker that stands where a name has been taken away;
* `Ident.order`, `Ident.sort` — the order of names, by code points.
-/

import SurfaceTree.Text.Escaped

set_option relaxedAutoImplicit false
set_option autoImplicit false

namespace SurfaceTree

/-- A name.  Any text is admitted, and the empty text is the empty marker. -/
structure Ident where
  /-- The text of the name. -/
  text : String
deriving DecidableEq, Inhabited

namespace Ident

/-- The marker of a name that has been taken away. -/
def empty : Ident := ⟨""⟩

/-- A name is empty if it is the empty marker. -/
def isEmpty (x : Ident) : Bool := decide (x = empty)

@[simp] theorem isEmpty_empty : empty.isEmpty = true := rfl

@[simp] theorem isEmpty_eq_true_iff {x : Ident} : x.isEmpty = true ↔ x = empty := by
  simp [isEmpty]

/-- Names are ordered character by character, by code point. -/
def order (x y : Ident) : Ordering := compare x.text y.text

/-- The names in ascending order, equal names staying in the order they came in. -/
def sort (xs : List Ident) : List Ident := xs.mergeSort fun x y => (x.order y).isLE

/-- The form in which a name is shown to someone who debugs. -/
def debug (x : Ident) : String := "Identifier(" ++ Text.quoted x.text ++ ")"

end Ident

end SurfaceTree
