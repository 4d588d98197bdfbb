/-
Parts that are asked for and are not there.

Most parts of a node that may be missing are plain options.  Where a caller insists on such a part,
the answer is either the part or an `Absence`, which names what was asked for and of whom.

Main definitions:

* `Absence`, `Absence.message` — the missing part, and its wording;
* `Param.insistTy`, `OperandTy.insistOutput?`, `Pattern.insistBind?`, `Pattern.insistItems?`,
  `Field.insistPattern?` — the insisting accessors.

An accessor that ends in a question mark has no answer at all for a node of another form, which
nobody insists on.
-/

import SurfaceTree.Pattern.Render
import SurfaceTree.Ty.Equality

set_option relaxedAutoImplicit false
set_option autoImplicit false

namespace SurfaceTree

/-- A part that was asked for and is not there. -/
inductive Absence where
  /-- The pattern after `@` of a binding. -/
  | bind (name : Ident)
  /-- The items of a tuple struct pattern. -/
  | tupleStructItems (path : ExprPath)
  /-- The items of a tuple pattern. -/
  | tupleItems
  /-- The pattern of a field given by its index. -/
  | indexedPattern (index : UInt32)
  /-- The pattern of a field given by its name. -/
  | namedPattern (name : Ident)
  /-- The type of a parameter, to be read. -/
  | paramTy
  /-- The type of a parameter, to be replaced. -/
  | paramTyToReplace
  /-- The type that a function returns. -/
  | output
deriving DecidableEq

/-- The wording of an absence. -/
def Absence.message : Absence → String
  | .bind x => "expect_pattern_to_bind called on \x60" ++ x.text ++ "\x60 without \x60@\x60 pattern"
  | .tupleStructItems p =>
      "expect_items called on tuple struct pattern \x60" ++ p.render ++ "\x60 without items"
  | .tupleItems => "expect_items called on a tuple pattern without items"
  | .indexedPattern i => "expect_index_pattern called on stripped field " ++ toString i.toNat
  | .namedPattern x => "expect_ident_pattern called on stripped field \x60" ++ x.text ++ "\x60"
  | .paramTy => "expect_type called on an error-state bare function parameter"
  | .paramTyToReplace => "expect_type_mut called on an error-state bare function parameter"
  | .output => "expect_return_type called on a function type without a return type"

/-- An optional part, or the absence that its lack amounts to. -/
def Absence.insist {α : Type} (lack : Absence) : Option α → Except Absence α
  | some part => .ok part
  | none => .error lack

@[simp] theorem Absence.insist_some {α : Type} (lack : Absence) (part : α) :
    lack.insist (some part) = .ok part := rfl

@[simp] theorem Absence.insist_none {α : Type} (lack : Absence) :
    lack.insist (none : Option α) = .error lack := rfl

/-! ### Types -/

/-- The type of a parameter. -/
def Param.insistTy (p : Param) : Except Absence Ty := Absence.paramTy.insist p.ty

/-- The parameter with another type.  A parameter that could not be read takes none. -/
def Param.replaceTy (p : Param) (ty : Ty) : Except Absence Param :=
  (Absence.paramTyToReplace.insist p.ty).map fun _ => { p with ty := some ty }

/-- The type that a function returns. -/
def OperandTy.insistOutput? : OperandTy → Option (Except Absence Ty)
  | .function _ _ _ _ output _ => some (Absence.output.insist output)
  | _ => none

/-! ### Patterns -/

/-- The pattern after `@` of a binding. -/
def Pattern.insistBind? : Pattern → Option (Except Absence Pattern)
  | .ident name _ _ bind _ => some ((Absence.bind name).insist bind)
  | _ => none

/-- The items of a tuple struct pattern or of a tuple pattern, with the style of the two. -/
def Pattern.insistItems? : Pattern → Option (Except Absence (ItemsStyle × Items))
  | .tupleStruct path items =>
      some ((Absence.tupleStructItems path).insist (items.map (.tupleStruct, ·)))
  | .tuple items _ => some (Absence.tupleItems.insist (items.map (.tuple, ·)))
  | _ => none

/-- The pattern of a field that is not in the short form. -/
def Field.insistPattern? : Field → Option (Except Absence Pattern)
  | .indexed i p _ _ => some ((Absence.indexedPattern i).insist p)
  | .named x p _ _ => some ((Absence.namedPattern x).insist p)
  | .shorthand _ _ _ _ _ => none

end SurfaceTree
