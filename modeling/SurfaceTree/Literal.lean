/-
Literals, as they stand in patterns, array lengths and attributes.

Main definitions:

* `LiteralKind` — which quotes, if any, stand around the text;
* `Literal` — a kind, the text between the quotes, a suffix and a span;
* `Literal.render` — the literal as it is written.
-/

import SurfaceTree.Span

set_option relaxedAutoImplicit false
set_option autoImplicit false

namespace SurfaceTree

/-- The kinds of literals. -/
inductive LiteralKind where
  /-- A character, as `'c'`. -/
  | char
  /-- A text, as `"text"`. -/
  | text
  /-- A byte, as `b'c'`. -/
  | byte
  /-- A byte string, as `b"text"`. -/
  | bytes
  /-- An integer without its sign. -/
  | int
  /-- A decimal fraction without its sign. -/
  | float
  /-- A truth value. -/
  | bool
deriving DecidableEq, Inhabited

/-- The literals of a numeric kind are the integers and the fractions. -/
def LiteralKind.isNumeric : LiteralKind → Bool
  | .int | .float => true
  | _ => false

/-- A literal.  Its value is kept as source text. -/
structure Literal where
  kind : LiteralKind
  /-- The source text, without quotes and suffix. -/
  value : String
  /-- The suffix that names a type. -/
  suffix : Option String
  span : Span
deriving DecidableEq, Inhabited

namespace Literal

/-- The value between the quotes of its kind. -/
def body (l : Literal) : String :=
  match l.kind with
  | .char => "'" ++ l.value ++ "'"
  | .text => "\"" ++ l.value ++ "\""
  | .byte => "b'" ++ l.value ++ "'"
  | .bytes => "b\"" ++ l.value ++ "\""
  | .int | .float | .bool => l.value

/-- The literal as it is written: the suffix follows directly. -/
def render (l : Literal) : String := l.body ++ l.suffix.getD ""

end Literal

end SurfaceTree
