/-
Two visitors on the same type.

A traversal is a fold: what it answers depends on the visitor only through what the visitor answers
at each node.  So if two visitors keep a relation at the nodes of types, and the relation survives
that answers are put one after another, then it holds between what the two traversals answer.
What a single visitor keeps is the case of a relation that does not look at the second.

Main definitions:

* `Node.InType` — the nodes that a traversal of a type stops at;
* `Visitor.Related` — two visitors keep a relation at some nodes.

Main results:

* `Visitor.Related.ty` and its companions — **related visitors give related answers**;
* `ExprPath.visit_eq_nil`, `RangeBound.visit_eq` — a visitor that has nothing to say about types
  says nothing about the parts of a pattern that are made of them.
-/

import SurfaceTree.Visit.Walk

set_option relaxedAutoImplicit false
set_option autoImplicit false

namespace SurfaceTree

/-- A node that is a type or stands in one. -/
def Node.InType : Node → Prop
  | .exprPath _ | .typePath _ | .qualifiedPath _ | .ty _ | .traitBound _ | .lifetime _
  | .param _ => True
  | .pattern _ | .rangeBound _ | .field _ | .items _ _ => False

/-- Two visitors keep a relation between lists of answers at all nodes of types. -/
structure Visitor.Related {ε δ : Type} (R : List ε → List δ → Prop) (v : Visitor ε)
    (w : Visitor δ) : Prop where
  /-- No answers are related to no answers. -/
  nil : R [] []
  /-- Related answers may be put one after another. -/
  append {xs xs' : List ε} {ys ys' : List δ} : R xs ys → R xs' ys' → R (xs ++ xs') (ys ++ ys')
  /-- Related answers from below a node give related answers at the node. -/
  node {n : Node} {xs : List ε} {ys : List δ} : n.InType → R xs ys → R (v n xs) (w n ys)

namespace Visitor.Related

variable {ε δ : Type} {R : List ε → List δ → Prop} {v : Visitor ε} {w : Visitor δ}

/-! ### Lifetimes -/

theorem lifetime (h : Related R v w) (l : Lifetime) : R (l.visit v) (l.visit w) :=
  h.node trivial h.nil

theorem lifetimes (h : Related R v w) (ls : List Lifetime) :
    R (Lifetime.visitAll v ls) (Lifetime.visitAll w ls) := by
  induction ls with
  | nil => exact h.nil
  | cons l ls ih => exact h.append (h.lifetime l) ih

theorem binder (h : Related R v w) (ps : List LifetimeParam) :
    R (LifetimeParam.visitAll v ps) (LifetimeParam.visitAll w ps) := by
  induction ps with
  | nil => exact h.nil
  | cons p ps ih => exact h.append (h.lifetime p.lifetime) ih

/-! ### Types -/

-- One lemma for each function of the traversal: `node` where the traversal stops, `append` where it
-- goes on from one part to the next, and `nil` where there is nothing.
mutual

theorem genericArgs (h : Related R v w) (a : GenericArgs) : R (a.visit v) (a.visit w) := by
  match a with
  | ⟨lifetimes, types, bindings⟩ =>
      exact h.append (h.append (h.lifetimes lifetimes) (h.tys types)) (h.bindings bindings)

theorem bindings (h : Related R v w) (bs : List Binding) :
    R (Binding.visitAll v bs) (Binding.visitAll w bs) := by
  match bs with
  | [] => exact h.nil
  | b :: bs => exact h.append (h.binding b) (h.bindings bs)

theorem binding (h : Related R v w) (b : Binding) : R (b.visit v) (b.visit w) := by
  match b with
  | ⟨_, ty, _⟩ => exact h.ty ty

theorem exprSegments (h : Related R v w) (ss : List ExprSegment) :
    R (ExprSegment.visitAll v ss) (ExprSegment.visitAll w ss) := by
  match ss with
  | [] => exact h.nil
  | s :: ss => exact h.append (h.exprSegment s) (h.exprSegments ss)

theorem exprSegment (h : Related R v w) (s : ExprSegment) : R (s.visit v) (s.visit w) := by
  match s with
  | ⟨_, args, _⟩ => exact h.genericArgs args

theorem exprPath (h : Related R v w) (p : ExprPath) : R (p.visit v) (p.visit w) := by
  match p with
  | ⟨segments, _, _⟩ => exact h.node trivial (h.exprSegments segments)

theorem qualifiedSelf (h : Related R v w) (s : QualifiedSelf) : R (s.visit v) (s.visit w) := by
  match s with
  | ⟨ty, asTrait, _⟩ => exact h.append (h.ty ty) (h.typePath? asTrait)

theorem typeSegments (h : Related R v w) (ss : List TypeSegment) :
    R (TypeSegment.visitAll v ss) (TypeSegment.visitAll w ss) := by
  match ss with
  | [] => exact h.nil
  | s :: ss => exact h.append (h.typeSegment s) (h.typeSegments ss)

theorem typeSegment (h : Related R v w) (s : TypeSegment) : R (s.visit v) (s.visit w) := by
  match s with
  | .plain _ _ => exact h.nil
  | .generic _ args _ => exact h.genericArgs args
  | .function _ inputs output _ => exact h.append (h.tys inputs) (h.ty? output)

theorem typePath (h : Related R v w) (p : TypePath) : R (p.visit v) (p.visit w) := by
  match p with
  | ⟨segments, _, _⟩ => exact h.node trivial (h.typeSegments segments)

theorem typePath? (h : Related R v w) (p : Option TypePath) :
    R (TypePath.visitOption v p) (TypePath.visitOption w p) := by
  match p with
  | none => exact h.nil
  | some p => exact h.typePath p

theorem qualifiedPath (h : Related R v w) (p : QualifiedTypePath) : R (p.visit v) (p.visit w) := by
  match p with
  | ⟨qself, _, _⟩ => exact h.node trivial (h.qualifiedSelf qself)

theorem traitBound (h : Related R v w) (b : TraitBound) : R (b.visit v) (b.visit w) := by
  match b with
  | ⟨path, _, _, binder, _⟩ => exact h.node trivial (h.append (h.binder binder) (h.typePath path))

theorem typeBounds (h : Related R v w) (bs : List TypeBound) :
    R (TypeBound.visitAll v bs) (TypeBound.visitAll w bs) := by
  match bs with
  | [] => exact h.nil
  | b :: bs => exact h.append (h.typeBound b) (h.typeBounds bs)

theorem typeBound (h : Related R v w) (b : TypeBound) : R (b.visit v) (b.visit w) := by
  match b with
  | .trait b => exact h.traitBound b
  | .lifetime l => exact h.lifetime l

theorem arraySize (h : Related R v w) (s : ArraySize) : R (s.visit v) (s.visit w) := by
  match s with
  | .literal _ => exact h.nil
  | .path p => exact h.exprPath p
  | .expr _ => exact h.nil

theorem params (h : Related R v w) (ps : List Param) :
    R (Param.visitAll v ps) (Param.visitAll w ps) := by
  match ps with
  | [] => exact h.nil
  | p :: ps => exact h.append (h.param p) (h.params ps)

theorem param (h : Related R v w) (p : Param) : R (p.visit v) (p.visit w) := by
  match p with
  | ⟨_, _, ty, _⟩ => exact h.node trivial (h.ty? ty)

theorem operandTy (h : Related R v w) (t : OperandTy) : R (t.visit v) (t.visit w) := by
  match t with
  | .paren inner _ => exact h.node trivial (h.ty inner)
  | .implOne bound _ => exact h.node trivial (h.traitBound bound)
  | .objectOne bound _ _ => exact h.node trivial (h.traitBound bound)
  | .path p => exact h.typePath p
  | .qualified p => exact h.qualifiedPath p
  | .tuple elems _ => exact h.node trivial (h.tys elems)
  | .never _ => exact h.node trivial h.nil
  | .pointer _ pointee _ => exact h.node trivial (h.operandTy pointee)
  | .reference lifetime _ referent _ =>
      exact h.node trivial (h.append (h.lifetimes lifetime.toList) (h.operandTy referent))
  | .array elem size _ => exact h.node trivial (h.append (h.ty elem) (h.arraySize size))
  | .slice elem _ => exact h.node trivial (h.ty elem)
  | .inferred _ => exact h.node trivial h.nil
  | .function binder _ params _ output _ =>
      exact h.node trivial
        (h.append (h.append (h.binder binder) (h.params params)) (h.ty? output))

/-- **Related visitors give related answers** on every type. -/
theorem ty (h : Related R v w) (t : Ty) : R (t.visit v) (t.visit w) := by
  match t with
  | .implTrait bounds _ => exact h.node trivial (h.typeBounds bounds)
  | .traitObject bounds _ _ => exact h.node trivial (h.typeBounds bounds)
  | .operand t => exact h.operandTy t

theorem tys (h : Related R v w) (ts : List Ty) : R (Ty.visitAll v ts) (Ty.visitAll w ts) := by
  match ts with
  | [] => exact h.nil
  | t :: ts => exact h.append (h.ty t) (h.tys ts)

theorem ty? (h : Related R v w) (t : Option Ty) :
    R (Ty.visitOption v t) (Ty.visitOption w t) := by
  match t with
  | none => exact h.nil
  | some t => exact h.ty t

end

theorem qualifiedExprPath (h : Related R v w) (p : QualifiedExprPath) :
    R (p.visit v) (p.visit w) :=
  h.append (h.qualifiedSelf p.qself) (h.exprSegments p.segments)

/-- A visitor that has nothing to say about types is related to one that never says anything. -/
theorem of_silent (h : ∀ n : Node, n.InType → v n [] = []) :
    Related (fun xs (_ : List Unit) => xs = []) v (fun _ _ => []) where
  nil := rfl
  append hxs hxs' := by rw [hxs, hxs', List.append_nil]
  node hn hxs := by rw [hxs, h _ hn]

end Visitor.Related

variable {ε : Type} {v : Visitor ε}

/-- A visitor that has nothing to say about types says nothing about a path. -/
theorem ExprPath.visit_eq_nil (h : ∀ n : Node, n.InType → v n [] = []) (p : ExprPath) :
    p.visit v = [] :=
  (Visitor.Related.of_silent h).exprPath p

/-- A visitor that has nothing to say about types hears nothing from below the end of a range. -/
theorem RangeBound.visit_eq (h : ∀ n : Node, n.InType → v n [] = []) (b : RangeBound) :
    b.visit v = v (.rangeBound b) [] := by
  cases b with
  | literal value minus span => rfl
  | path p => rw [visit, ExprPath.visit_eq_nil h]
  | qualified p => rw [visit, (Visitor.Related.of_silent h).qualifiedExprPath p]

end SurfaceTree
