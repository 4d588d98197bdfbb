/-
The nodes that a traversal stops at.

Not every part of a tree is a node of its own: lists of arguments, segments of paths and the starts
of qualified paths are walked through without a stop.

Main definitions:

* `Node` — a node of any family;
* `NodeKind`, `Node.kind` — the finer division of nodes, one kind for each form;
* `Node.render` — the source text of a node.
-/

import SurfaceTree.Pattern.Render

set_option relaxedAutoImplicit false
set_option autoImplicit false

namespace SurfaceTree

/-- A node that a traversal stops at. -/
inductive Node where
  | pattern (p : Pattern)
  | rangeBound (b : RangeBound)
  | field (f : Field)
  | items (style : ItemsStyle) (i : Items)
  | exprPath (p : ExprPath)
  | typePath (p : TypePath)
  | qualifiedPath (p : QualifiedTypePath)
  /-- A type that is no path. -/
  | ty (t : Ty)
  | traitBound (b : TraitBound)
  | lifetime (l : Lifetime)
  | param (p : Param)

/-- The kinds of nodes. -/
inductive NodeKind where
  | literalPattern
  | identPattern
  | wildcardPattern
  | rangePattern
  | referencePattern
  | structPattern
  | tupleStructPattern
  | tuplePattern
  | groupedPattern
  | slicePattern
  | literalBound
  | pathBound
  | qualifiedBound
  | indexedField
  | namedField
  | shorthandField
  | flatTupleStructItems
  | rangedTupleStructItems
  | flatTupleItems
  | rangedTupleItems
  | exprPath
  | typePath
  | qualifiedPath
  | parenTy
  | implOneTy
  | objectOneTy
  | tupleTy
  | neverTy
  | pointerTy
  | referenceTy
  | arrayTy
  | sliceTy
  | inferredTy
  | functionTy
  | implTraitTy
  | traitObjectTy
  | traitBound
  | lifetime
  | param
deriving DecidableEq

/-- The kind of a pattern. -/
def Pattern.kind : Pattern → NodeKind
  | .literal _ _ _ => .literalPattern
  | .ident _ _ _ _ _ => .identPattern
  | .wildcard _ => .wildcardPattern
  | .range _ _ _ _ => .rangePattern
  | .reference _ _ _ _ => .referencePattern
  | .struct _ _ => .structPattern
  | .tupleStruct _ _ => .tupleStructPattern
  | .tuple _ _ => .tuplePattern
  | .grouped _ _ => .groupedPattern
  | .slice _ _ => .slicePattern

/-- The kind of an end of a range. -/
def RangeBound.kind : RangeBound → NodeKind
  | .literal _ _ _ => .literalBound
  | .path _ => .pathBound
  | .qualified _ => .qualifiedBound

/-- The kind of a field, stripped or not. -/
def Field.kind : Field → NodeKind
  | .indexed _ _ _ _ => .indexedField
  | .named _ _ _ _ => .namedField
  | .shorthand _ _ _ _ _ => .shorthandField

/-- The kind of a list of items, which depends on where it stands. -/
def Items.kind : ItemsStyle → Items → NodeKind
  | .tupleStruct, .flat _ _ => .flatTupleStructItems
  | .tupleStruct, .ranged _ _ _ => .rangedTupleStructItems
  | .tuple, .flat _ _ => .flatTupleItems
  | .tuple, .ranged _ _ _ => .rangedTupleItems

/-- The kind of an operand type.  A type that is a path is of the kind of its path. -/
def OperandTy.kind : OperandTy → NodeKind
  | .paren _ _ => .parenTy
  | .implOne _ _ => .implOneTy
  | .objectOne _ _ _ => .objectOneTy
  | .path _ => .typePath
  | .qualified _ => .qualifiedPath
  | .tuple _ _ => .tupleTy
  | .never _ => .neverTy
  | .pointer _ _ _ => .pointerTy
  | .reference _ _ _ _ => .referenceTy
  | .array _ _ _ => .arrayTy
  | .slice _ _ => .sliceTy
  | .inferred _ => .inferredTy
  | .function _ _ _ _ _ _ => .functionTy

/-- The kind of a type. -/
def Ty.kind : Ty → NodeKind
  | .implTrait _ _ => .implTraitTy
  | .traitObject _ _ _ => .traitObjectTy
  | .operand t => t.kind

namespace Node

/-- The kind of a node. -/
def kind : Node → NodeKind
  | .pattern p => p.kind
  | .rangeBound b => b.kind
  | .field f => f.kind
  | .items style i => i.kind style
  | .exprPath _ => .exprPath
  | .typePath _ => .typePath
  | .qualifiedPath _ => .qualifiedPath
  | .ty t => t.kind
  | .traitBound _ => .traitBound
  | .lifetime _ => .lifetime
  | .param _ => .param

/-- The source text of a node. -/
def render : Node → String
  | .pattern p => p.render
  | .rangeBound b => b.render
  | .field f => f.render
  | .items style i => i.render style
  | .exprPath p => p.render
  | .typePath p => p.render
  | .qualifiedPath p => p.render
  | .ty t => t.render
  | .traitBound b => b.render
  | .lifetime l => l.render
  | .param p => p.render

end Node

end SurfaceTree
