/-
Attributes: the meta items that stand in `#[..]` before a field or a rest marker.

Main definitions:

* `SimplePath` — names joined by `::`;
* `MetaItem` — a word, a name with a value, a name with a list of items, or a bare literal;
* `Attribute` — a meta item and its span;
* `Attribute.renderOuter` — a run of attributes in front of what they belong to.

Main results:

* `MetaItem.same_iff` — the comparison of meta items decides their equality.
-/

import SurfaceTree.Ident
import SurfaceTree.Literal
import SurfaceTree.Text.Separated

set_option relaxedAutoImplicit false
set_option autoImplicit false

namespace SurfaceTree

/-- A path without arguments. -/
structure SimplePath where
  /-- The names, from left to right. -/
  segments : List Ident
deriving DecidableEq, Inhabited

namespace SimplePath

/-- The path of one name. -/
def single (name : String) : SimplePath := ⟨[⟨name⟩]⟩

/-- The one name of a path that has no other. -/
def ident? (p : SimplePath) : Option Ident :=
  match p.segments with
  | [x] => some x
  | _ => none

/-- A path is a name if that name is its only segment. -/
def isIdent (p : SimplePath) (name : String) : Bool := decide (p.ident? = some ⟨name⟩)

/-- The names with `::` between them. -/
def render (p : SimplePath) : String := Text.separated "::" (p.segments.map Ident.text)

end SimplePath

/-- The content of an attribute. -/
inductive MetaItem where
  /-- A path alone. -/
  | word (path : SimplePath)
  /-- A path and its value. -/
  | nameValue (path : SimplePath) (value : Literal)
  /-- A path and its operands. -/
  | list (path : SimplePath) (items : List MetaItem)
  /-- A literal alone. -/
  | literal (value : Literal)
deriving Inhabited

namespace MetaItem

/-- The path of an item.  A bare literal has none. -/
def path? : MetaItem → Option SimplePath
  | .word p | .nameValue p _ | .list p _ => some p
  | .literal _ => none

/-! ### Source text -/

mutual

/-- An item as it is written. -/
def render : MetaItem → String
  | .word p => p.render
  | .nameValue p v => p.render ++ " = " ++ v.render
  | .list p items => p.render ++ "(" ++ Text.separated ", " (renderAll items) ++ ")"
  | .literal v => v.render

/-- The items of a list, each as it is written. -/
def renderAll : List MetaItem → List String
  | [] => []
  | m :: ms => m.render :: renderAll ms

end

theorem renderAll_eq_map (ms : List MetaItem) : renderAll ms = ms.map render := by
  induction ms with
  | nil => rfl
  | cons m ms ih => rw [renderAll, ih, List.map_cons]

/-! ### Equality -/

mutual

/-- Comparison of two items. -/
def same : MetaItem → MetaItem → Bool
  | .word p, .word q => decide (p = q)
  | .nameValue p v, .nameValue q w => decide (p = q) && decide (v = w)
  | .list p ms, .list q ns => decide (p = q) && sameAll ms ns
  | .literal v, .literal w => decide (v = w)
  | _, _ => false

/-- Comparison of two lists of items. -/
def sameAll : List MetaItem → List MetaItem → Bool
  | [], [] => true
  | m :: ms, n :: ns => m.same n && sameAll ms ns
  | _, _ => false

end

mutual

theorem same_iff (m n : MetaItem) : m.same n = true ↔ m = n := by
  match m with
  | .word _ => cases n <;> simp [same]
  | .nameValue _ _ => cases n <;> simp [same]
  | .list _ ms => cases n <;> simp [same, sameAll_iff ms]
  | .literal _ => cases n <;> simp [same]

theorem sameAll_iff (ms ns : List MetaItem) : sameAll ms ns = true ↔ ms = ns := by
  match ms with
  | [] => cases ns <;> simp [sameAll]
  | m :: ms => cases ns <;> simp [sameAll, same_iff m, sameAll_iff ms]

end

instance : DecidableEq MetaItem := fun m n => decidable_of_iff _ (same_iff m n)

end MetaItem

/-- An attribute. -/
structure Attribute where
  /-- What stands between the brackets. -/
  item : MetaItem
  /-- Where the attribute stands. -/
  span : Span
deriving DecidableEq, Inhabited

namespace Attribute

/-- An attribute has a name if the path of its item is that name. -/
def hasName (a : Attribute) (name : String) : Bool := a.item.path?.any (·.isIdent name)

/-- The item between `#[` and `]`. -/
def render (a : Attribute) : String := "#[" ++ a.item.render ++ "]"

/-- A run of attributes, each with a blank after it. -/
def renderOuter (as : List Attribute) : String := String.join (as.map fun a => a.render ++ " ")

end Attribute

end SurfaceTree
