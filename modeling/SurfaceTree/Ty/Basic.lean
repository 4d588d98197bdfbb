/-
Type expressions, and the paths, bounds and parameters they are made of.

A type is either a list of bounds, `impl A + B` or `dyn A + B`, or an operand type.  Pointers and
references point to operand types only, so that a list of bounds can never follow `&` or `*`
without parentheses: the tree of `&dyn A + B` cannot be built.

Main definitions:

* `Ty`, `OperandTy` — types, and the types that may stand after `&` and `*`;
* `GenericArgs`, `ExprPath`, `TypePath`, `QualifiedTypePath` — the families of paths;
* `TraitBound`, `TypeBound` — bounds;
* `Param`, `FnQualifiers` — the parts of a function type;
* `Ty.span`, `Ty.tag`, `Ty.isUnit` — what every type can be asked for.
-/

import SurfaceTree.Lifetime
import SurfaceTree.Literal
import SurfaceTree.NodeTag

set_option relaxedAutoImplicit false
set_option autoImplicit false

namespace SurfaceTree

/-- The words in front of `fn`, and the name of the calling convention. -/
structure FnQualifiers where
  isConst : Bool := false
  isAsync : Bool := false
  isUnsafe : Bool := false
  isExtern : Bool := false
  /-- The calling convention, which is written only after `extern`. -/
  abi : Option String := none
deriving DecidableEq, Inhabited

/-- The qualifiers with a calling convention, which brings the word `extern` with it. -/
def FnQualifiers.withAbi (q : FnQualifiers) (abi : String) : FnQualifiers :=
  { q with isExtern := true, abi := some abi }

/-- How a parameter of a function type is named. -/
inductive ParamKind where
  /-- The type alone. -/
  | unnamed
  /-- A name before the type. -/
  | identifier
  /-- An underscore before the type. -/
  | wildcard
deriving DecidableEq

mutual

/-- The arguments between `<` and `>`. -/
structure GenericArgs where
  /-- The lifetimes, which come first. -/
  lifetimes : List Lifetime
  types : List Ty
  /-- The associated types that are fixed. -/
  bindings : List Binding

/-- An associated type that is fixed, as `Item = u8`. -/
structure Binding where
  name : Ident
  /-- The type it is fixed to. -/
  ty : Ty
  span : Span

/-- A segment of a path in an expression. -/
structure ExprSegment where
  name : Ident
  /-- Its arguments, which follow after `::` if there are any. -/
  args : GenericArgs
  span : Span

/-- A path in an expression or a pattern. -/
structure ExprPath where
  segments : List ExprSegment
  /-- The path starts with `::`. -/
  rooted : Bool
  span : Span

/-- The start `<T>` or `<T as Trait>` of a qualified path. -/
structure QualifiedSelf where
  ty : Ty
  /-- The trait it is taken as. -/
  asTrait : Option TypePath
  span : Span

/-- A segment of a path in a type. -/
inductive TypeSegment where
  /-- A name alone. -/
  | plain (name : Ident) (span : Span)
  /-- A name with arguments. -/
  | generic (name : Ident) (args : GenericArgs) (span : Span)
  /-- A name with the inputs and the output of a function, as `Fn(u8) -> u8`. -/
  | function (name : Ident) (inputs : List Ty) (output : Option Ty) (span : Span)

/-- A path in a type. -/
structure TypePath where
  segments : List TypeSegment
  /-- The path starts with `::`. -/
  rooted : Bool
  /-- The tag and the span of the path. -/
  site : Site

/-- A path in a type that starts from a type of its own, as `<T as Trait>::Item`. -/
structure QualifiedTypePath where
  /-- The start of the path. -/
  qself : QualifiedSelf
  /-- The segments after it. -/
  segments : List TypeSegment
  /-- The tag and the span of the path. -/
  site : Site

/-- A trait that a type has to have. -/
structure TraitBound where
  path : TypePath
  /-- The bound stood in parentheses. -/
  inParens : Bool
  /-- The bound starts with `?`. -/
  maybe : Bool
  /-- The lifetimes introduced in front of the trait. -/
  binder : List LifetimeParam
  span : Span

/-- An entry of a list of bounds. -/
inductive TypeBound where
  | trait (bound : TraitBound)
  | lifetime (lifetime : Lifetime)

/-- The length of an array. -/
inductive ArraySize where
  | literal (value : Literal)
  /-- The name of a constant. -/
  | path (path : ExprPath)
  /-- Any other expression, by its handle. -/
  | expr (id : ExprId)

/-- A parameter of a function type.  A parameter without a type stands for one that could not be
read. -/
structure Param where
  name : Ident
  /-- How the name is written. -/
  kind : ParamKind
  ty : Option Ty
  span : Span

/-- A type that may stand after `&` and `*`. -/
inductive OperandTy where
  /-- A type in parentheses. -/
  | paren (inner : Ty) (site : Site)
  /-- A hidden type with a single bound. -/
  | implOne (bound : TraitBound) (site : Site)
  /-- A trait object with a single bound. -/
  | objectOne (bound : TraitBound) (hasDyn : Bool) (site : Site)
  /-- A named type. -/
  | path (path : TypePath)
  /-- A type named by a qualified path. -/
  | qualified (path : QualifiedTypePath)
  | tuple (elems : List Ty) (site : Site)
  /-- The type without values. -/
  | never (site : Site)
  | pointer (isMut : Bool) (pointee : OperandTy) (site : Site)
  | reference (lifetime : Option Lifetime) (isMut : Bool) (referent : OperandTy) (site : Site)
  | array (elem : Ty) (size : ArraySize) (site : Site)
  | slice (elem : Ty) (site : Site)
  /-- A type left to be inferred. -/
  | inferred (site : Site)
  | function (binder : List LifetimeParam) (quals : FnQualifiers) (params : List Param)
      (variadic : Bool) (output : Option Ty) (site : Site)

/-- A type. -/
inductive Ty where
  /-- A hidden type with a list of bounds. -/
  | implTrait (bounds : List TypeBound) (site : Site)
  /-- A trait object with a list of bounds. -/
  | traitObject (bounds : List TypeBound) (hasDyn : Bool) (site : Site)
  /-- A type that may stand after `&` and `*`. -/
  | operand (ty : OperandTy)

end

/-- A path in an expression that starts from a type of its own, as `<T as Trait>::CONST`. -/
structure QualifiedExprPath where
  /-- The start of the path. -/
  qself : QualifiedSelf
  /-- The segments after it. -/
  segments : List ExprSegment
  span : Span

/-! ### Paths -/

namespace GenericArgs

/-- No arguments at all. -/
def empty : GenericArgs := ⟨[], [], []⟩

/-- Arguments of which there are none. -/
def isEmpty (a : GenericArgs) : Bool :=
  a.lifetimes.isEmpty && a.types.isEmpty && a.bindings.isEmpty

end GenericArgs

namespace ExprPath

/-- The path of one name without arguments. -/
def ofIdent (name : Ident) (span : Span) : ExprPath := ⟨[⟨name, .empty, span⟩], false, span⟩

/-- A path is a single name if it has one segment, no arguments and no leading `::`. -/
def isSingle (p : ExprPath) : Bool :=
  match p.segments with
  | [s] => s.args.isEmpty && !p.rooted
  | _ => false

end ExprPath

/-- The path of one name. -/
def TypePath.ofIdent (name : Ident) (site : Site) : TypePath :=
  ⟨[.plain name site.span], false, site⟩

/-! ### Bounds and parameters -/

namespace TypeBound

/-- Where a bound stands. -/
def span : TypeBound → Span
  | .trait b => b.span
  | .lifetime l => l.span

/-- The trait of a bound that is no lifetime. -/
def trait? : TypeBound → Option TraitBound
  | .trait b => some b
  | .lifetime _ => none

end TypeBound

namespace Param

/-- A parameter of which only the type is written. -/
def unnamed (ty : Ty) (span : Span) : Param := ⟨.empty, .unnamed, some ty, span⟩

/-- A parameter with a name. -/
def named (name : Ident) (ty : Ty) (span : Span) : Param := ⟨name, .identifier, some ty, span⟩

/-- A parameter with an underscore for a name. -/
def wildcard (ty : Ty) (span : Span) : Param := ⟨⟨"_"⟩, .wildcard, some ty, span⟩

/-- A parameter that could not be read. -/
def error : Param := ⟨.empty, .unnamed, none, .dummy⟩

instance : Inhabited Param := ⟨error⟩

/-- A parameter that could not be read is one without a type. -/
def isError (p : Param) : Bool := p.ty.isNone

end Param

/-! ### Types -/

namespace OperandTy

/-- The tag and the span of a type. -/
def site : OperandTy → Site
  | .paren _ s | .implOne _ s | .objectOne _ _ s | .tuple _ s | .never s | .pointer _ _ s
  | .reference _ _ _ s | .array _ _ s | .slice _ s | .inferred s | .function _ _ _ _ _ s => s
  | .path p => p.site
  | .qualified p => p.site

/-- The unit type is the tuple without elements.  Parentheses around it hide it. -/
def isUnit : OperandTy → Bool
  | .tuple elems _ => elems.isEmpty
  | _ => false

end OperandTy

namespace Ty

instance : Inhabited Ty := ⟨.operand (.never default)⟩

/-- The type that a name stands for. -/
def ofIdent (name : Ident) (site : Site) : Ty := .operand (.path (.ofIdent name site))

/-- The tag and the span of a type. -/
def site : Ty → Site
  | .implTrait _ s | .traitObject _ _ s => s
  | .operand t => t.site

/-- Where a type stands in the source. -/
def span (t : Ty) : Span := t.site.span

/-- The analysis tag of a type. -/
def tag (t : Ty) : NodeTag := t.site.tag

/-- The type as one that may stand after `&` and `*`.  A list of bounds may not. -/
def operand? : Ty → Option OperandTy
  | .operand t => some t
  | .implTrait _ _ | .traitObject _ _ _ => none

/-- A type is the unit type if it is an operand type that is. -/
def isUnit (t : Ty) : Bool := t.operand?.any OperandTy.isUnit

end Ty

deriving instance Inhabited for GenericArgs, ExprSegment, ExprPath, QualifiedSelf, TypeSegment,
  TypePath, QualifiedTypePath, TraitBound, TypeBound, ArraySize, OperandTy

end SurfaceTree
