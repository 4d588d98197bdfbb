/-
Patterns: what stands to the left of `=` in a binding and of `=>` in a match arm.

Main definitions:

* `Pattern` — the ten forms of patterns;
* `RangeBound` — the ends of a range pattern;
* `Field`, `Elements` — the fields of a struct pattern and its rest marker `..`;
* `Items`, `ItemsStyle` — the items of tuple patterns and of tuple struct patterns;
* `Pattern.span`, `Field.attrs`, `Field.pattern?` — what a node can be asked for.
-/

import SurfaceTree.Attribute
import SurfaceTree.Ty.Basic

set_option relaxedAutoImplicit false
set_option autoImplicit false

namespace SurfaceTree

/-- An end of a range pattern. -/
inductive RangeBound where
  /-- A literal, perhaps after a minus sign. -/
  | literal (value : Literal) (minus : Bool) (span : Span)
  /-- The name of a constant. -/
  | path (path : ExprPath)
  /-- A constant of a type. -/
  | qualified (path : QualifiedExprPath)

/-- Where an end of a range stands. -/
def RangeBound.span : RangeBound → Span
  | .literal _ _ s => s
  | .path p => p.span
  | .qualified p => p.span

mutual

/-- A pattern. -/
inductive Pattern where
  /-- A literal, perhaps after a minus sign. -/
  | literal (value : Literal) (minus : Bool) (span : Span)
  /-- A binding, with the pattern after `@` if there is one. -/
  | ident (name : Ident) (isRef isMut : Bool) (bind : Option Pattern) (span : Span)
  /-- The pattern that fits anything. -/
  | wildcard (span : Span)
  /-- A range of values.  The ellipsis is the older way to write it. -/
  | range (lower upper : RangeBound) (ellipsis : Bool) (span : Span)
  /-- A pattern behind one or two reference marks. -/
  | reference (inner : Pattern) (twoAmps isMut : Bool) (span : Span)
  /-- The fields of a struct. -/
  | struct (path : ExprPath) (elems : Elements)
  /-- The items of a tuple struct. -/
  | tupleStruct (path : ExprPath) (items : Option Items)
  /-- The items of a tuple. -/
  | tuple (items : Option Items) (span : Span)
  /-- A pattern in parentheses. -/
  | grouped (inner : Pattern) (span : Span)
  /-- The items of a slice. -/
  | slice (items : List Pattern) (span : Span)

/-- What stands between the braces of a struct pattern. -/
structure Elements where
  /-- The fields, those that have been stripped included. -/
  fields : List Field
  /-- The rest marker `..` is present. -/
  hasRest : Bool
  /-- The attributes of the rest marker. -/
  restAttrs : List Attribute

/-- A field of a struct pattern.  Without its pattern, or with an empty name in the short form, it
is the slot of a field that has been stripped. -/
inductive Field where
  /-- A field of a tuple struct, by its index. -/
  | indexed (index : UInt32) (pattern : Option Pattern) (attrs : List Attribute) (span : Span)
  /-- A field with its name and a pattern. -/
  | named (name : Ident) (pattern : Option Pattern) (attrs : List Attribute) (span : Span)
  /-- A field whose name is also the binding. -/
  | shorthand (name : Ident) (isRef isMut : Bool) (attrs : List Attribute) (span : Span)

/-- The items of a tuple or of a tuple struct. -/
inductive Items where
  /-- Items without a rest marker. -/
  | flat (patterns : List Pattern) (span : Span)
  /-- The items before and after the one rest marker. -/
  | ranged (lower upper : List Pattern) (span : Span)

end

/-- Where a list of items stands: after the path of a tuple struct, or alone in a tuple. -/
inductive ItemsStyle where
  /-- After the path of a tuple struct. -/
  | tupleStruct
  /-- Alone in parentheses. -/
  | tuple
deriving DecidableEq

namespace Items

/-- Where a list of items stands in the source. -/
def span : Items → Span
  | .flat _ s | .ranged _ _ s => s

/-- A list of items has a rest marker if it is split. -/
def hasRest : Items → Bool
  | .flat _ _ => false
  | .ranged _ _ _ => true

end Items

namespace Field

/-- The attributes in front of a field. -/
def attrs : Field → List Attribute
  | .indexed _ _ as _ | .named _ _ as _ | .shorthand _ _ _ as _ => as

/-- The field with other attributes in front of it. -/
def withAttrs (as : List Attribute) : Field → Field
  | .indexed i p _ s => .indexed i p as s
  | .named x p _ s => .named x p as s
  | .shorthand x r m _ s => .shorthand x r m as s

/-- Where a field stands. -/
def span : Field → Span
  | .indexed _ _ _ s | .named _ _ _ s | .shorthand _ _ _ _ s => s

/-- The pattern of a field.  The short form has none. -/
def pattern? : Field → Option Pattern
  | .indexed _ p _ _ | .named _ p _ _ => p
  | .shorthand _ _ _ _ _ => none

end Field

namespace Elements

/-- No fields and no rest marker. -/
def empty : Elements := ⟨[], false, []⟩

/-- There is neither a field, stripped or not, nor a rest marker. -/
def isEmpty (e : Elements) : Bool := e.fields.isEmpty && !e.hasRest

end Elements

namespace Pattern

instance : Inhabited Pattern := ⟨.wildcard .dummy⟩

/-- Where a pattern stands.  A pattern that starts with a path stands where its path does. -/
def span : Pattern → Span
  | .literal _ _ s | .ident _ _ _ _ s | .wildcard s | .range _ _ _ s | .reference _ _ _ s
  | .tuple _ s | .grouped _ s | .slice _ s => s
  | .struct p _ | .tupleStruct p _ => p.span

/-- A name that binds a value as it is. -/
def simple (name : Ident) (span : Span) : Pattern := .ident name false false none span

/-- What stands between the braces of a struct pattern. -/
def elements? : Pattern → Option Elements
  | .struct _ e => some e
  | _ => none

end Pattern

deriving instance Inhabited for Elements, Field, Items

end SurfaceTree
