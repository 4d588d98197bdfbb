/-
Stripping single parts of a struct pattern.

A field that is stripped keeps its slot, so that the fields after it keep their positions: its
pattern is taken away, or its name in the short form.  The rest marker leaves no slot behind.

Main definitions:

* `Field.strip`, `Field.isStripped` — taking the content of a field away, and seeing that it is
  gone;
* `Elements.stripField`, `Elements.stripRest` — the same inside the braces of a pattern;
* `Elements.live` — the fields that have not been stripped.

Main results:

* `Field.isStripped_strip`, `Field.strip_strip` — stripping does what it says, and once is enough;
* `Field.attrs_strip`, `Field.span_strip` — a slot keeps its attributes and its span.
-/

import SurfaceTree.Pattern.Basic

set_option relaxedAutoImplicit false
set_option autoImplicit false

namespace SurfaceTree

namespace Field

/-- The slot of a field: everything but its pattern, or its name in the short form. -/
def strip : Field → Field
  | .indexed i _ as s => .indexed i none as s
  | .named x _ as s => .named x none as s
  | .shorthand _ r m as s => .shorthand .empty r m as s

/-- A field is a slot if its pattern is missing, or its name in the short form is empty. -/
def isStripped : Field → Bool
  | .indexed _ p _ _ | .named _ p _ _ => p.isNone
  | .shorthand x _ _ _ _ => x.isEmpty

@[simp] theorem isStripped_strip (f : Field) : f.strip.isStripped = true := by
  cases f <;> rfl

@[simp] theorem strip_strip (f : Field) : f.strip.strip = f.strip := by
  cases f <;> rfl

@[simp] theorem attrs_strip (f : Field) : f.strip.attrs = f.attrs := by
  cases f <;> rfl

@[simp] theorem span_strip (f : Field) : f.strip.span = f.span := by
  cases f <;> rfl

@[simp] theorem isStripped_withAttrs (f : Field) (as : List Attribute) :
    (f.withAttrs as).isStripped = f.isStripped := by
  cases f <;> rfl

end Field

namespace Elements

/-- Strips the field at a position.  Past the end there is nothing to strip. -/
def stripField (e : Elements) (i : Nat) : Elements :=
  { e with fields := e.fields.modify i Field.strip }

/-- Takes the rest marker away, and its attributes with it. -/
def stripRest (e : Elements) : Elements := { e with hasRest := false, restAttrs := [] }

/-- The fields that have not been stripped, in their order. -/
def live (e : Elements) : List Field := e.fields.filter fun f => !f.isStripped

/-- Nothing is left to be seen: neither a live field nor a rest marker. -/
def isBare (e : Elements) : Bool := e.live.isEmpty && !e.hasRest

@[simp] theorem length_fields_stripField (e : Elements) (i : Nat) :
    (e.stripField i).fields.length = e.fields.length := by
  simp [stripField]

@[simp] theorem stripRest_stripRest (e : Elements) : e.stripRest.stripRest = e.stripRest := rfl

theorem stripField_stripRest (e : Elements) (i : Nat) :
    (e.stripField i).stripRest = e.stripRest.stripField i := rfl

end Elements

end SurfaceTree
