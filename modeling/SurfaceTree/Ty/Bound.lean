/-
The bound that a type stands for where a bound is expected.

A trait object with one bound, a bare path, and either of them in parentheses may be read as the
bound they consist of.  No other type may: a hidden type is not its bound.

Main definitions:

* `TypePath.asBound` — a path as a bound;
* `Ty.asBound?`, `OperandTy.asBound?` — the bound a type stands for, if there is one.
-/

import SurfaceTree.Ty.Basic

set_option relaxedAutoImplicit false
set_option autoImplicit false

namespace SurfaceTree

/-- A path as a bound that has no question mark and introduces no lifetimes. -/
def TypePath.asBound (p : TypePath) (inParens : Bool) : TraitBound :=
  ⟨p, inParens, false, [], p.site.span⟩

mutual

/-- The bound an operand type stands for.  Parentheses are remembered in the bound, in addition
to those the bound of a trait object had before. -/
def OperandTy.asBound? : OperandTy → Bool → Option TraitBound
  | .paren inner _, _ => inner.asBound? true
  | .objectOne bound _ _, inParens => some { bound with inParens := bound.inParens || inParens }
  | .path p, inParens => some (p.asBound inParens)
  | _, _ => none

/-- The bound a type stands for.  A list of bounds stands for none. -/
def Ty.asBound? : Ty → Bool → Option TraitBound
  | .operand t, inParens => t.asBound? inParens
  | .implTrait _ _, _ | .traitObject _ _ _, _ => none

end

end SurfaceTree
