/-
Traversal of patterns and types.

A traversal goes through a tree in source order and asks a visitor at every node.  The visitor is
given the node and the answers that the traversal has found below it, and answers with a list of
its own.  One that passes the answers on lets the traversal go on; one that leaves them out cuts
the node off.

Main definitions:

* `Visitor` — what is answered at a node, given the answers from below;
* `Visitor.only`, `Visitor.trace` — a visitor that stops at one kind of node, and one that records
  and goes on;
* `Pattern.visit`, `Ty.visit` and their companions — the traversal of each family.

Slots of stripped fields are stopped at like any other field, and nothing is below them.  Below a
qualified path in a type stand the type and the trait it starts with; its segments are not gone
into.  A binder offers the lifetimes that it introduces, without the lifetimes they outlive.
-/

import SurfaceTree.Visit.Node

set_option relaxedAutoImplicit false
set_option autoImplicit false

namespace SurfaceTree

/-- What is answered at a node, given the answers from below it. -/
abbrev Visitor (ε : Type) := Node → List ε → List ε

namespace Visitor

/-- Records the nodes of one kind and does not go below them. -/
def only (kind : NodeKind) : Visitor Node := fun node below =>
  if node.kind = kind then [node] else below

/-- Records the nodes of some kinds, each before what is below it.  The nodes of a halting kind are
recorded and cut off. -/
def trace (recorded halting : NodeKind → Bool) : Visitor Node := fun node below =>
  if recorded node.kind then node :: if halting node.kind then [] else below else below

end Visitor

variable {ε : Type}

/-! ### Lifetimes -/

/-- Asks at a lifetime. -/
def Lifetime.visit (v : Visitor ε) (l : Lifetime) : List ε := v (.lifetime l) []

/-- Asks at each lifetime of a list. -/
def Lifetime.visitAll (v : Visitor ε) (ls : List Lifetime) : List ε := ls.flatMap (·.visit v)

/-- Asks at each lifetime that a binder introduces. -/
def LifetimeParam.visitAll (v : Visitor ε) (ps : List LifetimeParam) : List ε :=
  ps.flatMap (·.lifetime.visit v)

/-! ### Types -/

mutual

/-- Goes through the lifetimes, the types and the types of the bindings. -/
def GenericArgs.visit (v : Visitor ε) : GenericArgs → List ε
  | ⟨lifetimes, types, bindings⟩ =>
      Lifetime.visitAll v lifetimes ++ Ty.visitAll v types ++ Binding.visitAll v bindings

/-- Goes through the types that associated types are fixed to. -/
def Binding.visitAll (v : Visitor ε) : List Binding → List ε
  | [] => []
  | b :: bs => b.visit v ++ Binding.visitAll v bs

/-- Goes through the type that an associated type is fixed to. -/
def Binding.visit (v : Visitor ε) : Binding → List ε
  | ⟨_, ty, _⟩ => ty.visit v

/-- Goes through the arguments of each segment. -/
def ExprSegment.visitAll (v : Visitor ε) : List ExprSegment → List ε
  | [] => []
  | s :: ss => s.visit v ++ ExprSegment.visitAll v ss

/-- Goes through the arguments of a segment. -/
def ExprSegment.visit (v : Visitor ε) : ExprSegment → List ε
  | ⟨_, args, _⟩ => args.visit v

/-- Asks at a path in an expression. -/
def ExprPath.visit (v : Visitor ε) : ExprPath → List ε
  | ⟨segments, rooted, span⟩ =>
      v (.exprPath ⟨segments, rooted, span⟩) (ExprSegment.visitAll v segments)

/-- Goes through the type and the trait that a qualified path starts with. -/
def QualifiedSelf.visit (v : Visitor ε) : QualifiedSelf → List ε
  | ⟨ty, asTrait, _⟩ => ty.visit v ++ TypePath.visitOption v asTrait

/-- Goes through the parts of each segment. -/
def TypeSegment.visitAll (v : Visitor ε) : List TypeSegment → List ε
  | [] => []
  | s :: ss => s.visit v ++ TypeSegment.visitAll v ss

/-- Goes through the arguments, or the inputs and the output, of a segment. -/
def TypeSegment.visit (v : Visitor ε) : TypeSegment → List ε
  | .plain _ _ => []
  | .generic _ args _ => args.visit v
  | .function _ inputs output _ => Ty.visitAll v inputs ++ Ty.visitOption v output

/-- Asks at a path in a type. -/
def TypePath.visit (v : Visitor ε) : TypePath → List ε
  | ⟨segments, rooted, site⟩ =>
      v (.typePath ⟨segments, rooted, site⟩) (TypeSegment.visitAll v segments)

/-- Asks at a path, if it is there. -/
def TypePath.visitOption (v : Visitor ε) : Option TypePath → List ε
  | none => []
  | some p => p.visit v

/-- Asks at a qualified path in a type. -/
def QualifiedTypePath.visit (v : Visitor ε) : QualifiedTypePath → List ε
  | ⟨qself, segments, site⟩ => v (.qualifiedPath ⟨qself, segments, site⟩) (qself.visit v)

/-- Asks at a trait. -/
def TraitBound.visit (v : Visitor ε) : TraitBound → List ε
  | ⟨path, inParens, maybe, binder, span⟩ =>
      v (.traitBound ⟨path, inParens, maybe, binder, span⟩)
        (LifetimeParam.visitAll v binder ++ path.visit v)

/-- Asks at each bound of a list. -/
def TypeBound.visitAll (v : Visitor ε) : List TypeBound → List ε
  | [] => []
  | b :: bs => b.visit v ++ TypeBound.visitAll v bs

/-- Asks at a bound. -/
def TypeBound.visit (v : Visitor ε) : TypeBound → List ε
  | .trait b => b.visit v
  | .lifetime l => l.visit v

/-- Asks at the path that gives the length of an array. -/
def ArraySize.visit (v : Visitor ε) : ArraySize → List ε
  | .literal _ => []
  | .path p => p.visit v
  | .expr _ => []

/-- Asks at each parameter of a list. -/
def Param.visitAll (v : Visitor ε) : List Param → List ε
  | [] => []
  | p :: ps => p.visit v ++ Param.visitAll v ps

/-- Asks at a parameter. -/
def Param.visit (v : Visitor ε) : Param → List ε
  | ⟨name, kind, ty, span⟩ => v (.param ⟨name, kind, ty, span⟩) (Ty.visitOption v ty)

/-- Asks at an operand type.  A type that is a path is asked at once, as a path. -/
def OperandTy.visit (v : Visitor ε) : OperandTy → List ε
  | .paren inner site => v (.ty (.operand (.paren inner site))) (inner.visit v)
  | .implOne bound site => v (.ty (.operand (.implOne bound site))) (bound.visit v)
  | .objectOne bound hasDyn site =>
      v (.ty (.operand (.objectOne bound hasDyn site))) (bound.visit v)
  | .path p => p.visit v
  | .qualified p => p.visit v
  | .tuple elems site => v (.ty (.operand (.tuple elems site))) (Ty.visitAll v elems)
  | .never site => v (.ty (.operand (.never site))) []
  | .pointer isMut pointee site =>
      v (.ty (.operand (.pointer isMut pointee site))) (pointee.visit v)
  | .reference lifetime isMut referent site =>
      v (.ty (.operand (.reference lifetime isMut referent site)))
        (Lifetime.visitAll v lifetime.toList ++ referent.visit v)
  | .array elem size site =>
      v (.ty (.operand (.array elem size site))) (elem.visit v ++ size.visit v)
  | .slice elem site => v (.ty (.operand (.slice elem site))) (elem.visit v)
  | .inferred site => v (.ty (.operand (.inferred site))) []
  | .function binder quals params variadic output site =>
      v (.ty (.operand (.function binder quals params variadic output site)))
        (LifetimeParam.visitAll v binder ++ Param.visitAll v params ++ Ty.visitOption v output)

/-- Asks at a type. -/
def Ty.visit (v : Visitor ε) : Ty → List ε
  | .implTrait bounds site => v (.ty (.implTrait bounds site)) (TypeBound.visitAll v bounds)
  | .traitObject bounds hasDyn site =>
      v (.ty (.traitObject bounds hasDyn site)) (TypeBound.visitAll v bounds)
  | .operand t => t.visit v

/-- Asks at each type of a list. -/
def Ty.visitAll (v : Visitor ε) : List Ty → List ε
  | [] => []
  | t :: ts => t.visit v ++ Ty.visitAll v ts

/-- Asks at a type, if it is there. -/
def Ty.visitOption (v : Visitor ε) : Option Ty → List ε
  | none => []
  | some t => t.visit v

end

/-! ### Patterns -/

/-- Goes through the start of a qualified path and the arguments of its segments. -/
def QualifiedExprPath.visit (v : Visitor ε) (p : QualifiedExprPath) : List ε :=
  p.qself.visit v ++ ExprSegment.visitAll v p.segments

/-- Asks at an end of a range. -/
def RangeBound.visit (v : Visitor ε) (b : RangeBound) : List ε :=
  v (.rangeBound b) <|
    match b with
    | .literal _ _ _ => []
    | .path p => p.visit v
    | .qualified p => p.visit v

mutual

/-- Asks at a pattern. -/
def Pattern.visit (v : Visitor ε) : Pattern → List ε
  | .literal value minus span => v (.pattern (.literal value minus span)) []
  | .ident name isRef isMut bind span =>
      v (.pattern (.ident name isRef isMut bind span)) (Pattern.visitOption v bind)
  | .wildcard span => v (.pattern (.wildcard span)) []
  | .range lower upper ellipsis span =>
      v (.pattern (.range lower upper ellipsis span)) (lower.visit v ++ upper.visit v)
  | .reference inner twoAmps isMut span =>
      v (.pattern (.reference inner twoAmps isMut span)) (inner.visit v)
  | .struct path elems => v (.pattern (.struct path elems)) (path.visit v ++ elems.visit v)
  | .tupleStruct path items =>
      v (.pattern (.tupleStruct path items))
        (path.visit v ++ Items.visitOption v .tupleStruct items)
  | .tuple items span => v (.pattern (.tuple items span)) (Items.visitOption v .tuple items)
  | .grouped inner span => v (.pattern (.grouped inner span)) (inner.visit v)
  | .slice items span => v (.pattern (.slice items span)) (Pattern.visitAll v items)

/-- Asks at each pattern of a list. -/
def Pattern.visitAll (v : Visitor ε) : List Pattern → List ε
  | [] => []
  | p :: ps => p.visit v ++ Pattern.visitAll v ps

/-- Asks at a pattern, if it is there. -/
def Pattern.visitOption (v : Visitor ε) : Option Pattern → List ε
  | none => []
  | some p => p.visit v

/-- Goes through the fields between the braces. -/
def Elements.visit (v : Visitor ε) : Elements → List ε
  | ⟨fields, _, _⟩ => Field.visitAll v fields

/-- Asks at a field. -/
def Field.visit (v : Visitor ε) : Field → List ε
  | .indexed index pattern attrs span =>
      v (.field (.indexed index pattern attrs span)) (Pattern.visitOption v pattern)
  | .named name pattern attrs span =>
      v (.field (.named name pattern attrs span)) (Pattern.visitOption v pattern)
  | .shorthand name isRef isMut attrs span =>
      v (.field (.shorthand name isRef isMut attrs span)) []

/-- Asks at each field of a list. -/
def Field.visitAll (v : Visitor ε) : List Field → List ε
  | [] => []
  | f :: fs => f.visit v ++ Field.visitAll v fs

/-- Asks at a list of items. -/
def Items.visit (v : Visitor ε) : ItemsStyle → Items → List ε
  | style, .flat patterns span =>
      v (.items style (.flat patterns span)) (Pattern.visitAll v patterns)
  | style, .ranged lower upper span =>
      v (.items style (.ranged lower upper span))
        (Pattern.visitAll v lower ++ Pattern.visitAll v upper)

/-- Asks at a list of items, if it is there. -/
def Items.visitOption (v : Visitor ε) : ItemsStyle → Option Items → List ε
  | _, none => []
  | style, some items => items.visit v style

end

end SurfaceTree
