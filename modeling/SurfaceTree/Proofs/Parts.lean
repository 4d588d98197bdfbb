/-
The parts of a tree, of whatever family.

A traversal is written as one function for each family of patterns, paths, types and bounds, and
each of them lists by hand what it goes on to.  Here all families are summed up in one type, so that
what stands immediately in a part, what a traversal does at it and what it goes on to can be said
once and compared.

Main definitions:

* `Part` — a part of a tree: a node, or what a traversal goes through between two nodes;
* `Part.children` — **everything that stands immediately in a part**, in source order;
* `Part.walked` — what of that a traversal goes on to;
* `Part.node?` — the node that a traversal stops at, if the part is one;
* `Part.visit` — the traversal of each family.

Main results:

* `Part.walked_prefix` — what is not gone on to comes last;
* `Part.induction` — **induction along parts**;
* `Part.visit_eq` — **what a traversal does at a part**, for all families at once.
-/

import SurfaceTree.Proofs.Children
import SurfaceTree.Visit.Walk

set_option relaxedAutoImplicit false
set_option autoImplicit false

namespace SurfaceTree

/-- A part of a tree. -/
inductive Part where
  | pattern (p : Pattern)
  | rangeBound (b : RangeBound)
  | elements (e : Elements)
  | field (f : Field)
  | items (style : ItemsStyle) (i : Items)
  | qualifiedExprPath (p : QualifiedExprPath)
  | exprPath (p : ExprPath)
  | exprSegment (s : ExprSegment)
  | args (a : GenericArgs)
  | binding (b : Binding)
  | qself (q : QualifiedSelf)
  | typePath (p : TypePath)
  | typeSegment (s : TypeSegment)
  | qualifiedPath (p : QualifiedTypePath)
  | ty (t : Ty)
  | operand (t : OperandTy)
  | traitBound (b : TraitBound)
  | typeBound (b : TypeBound)
  | param (p : Param)
  | arraySize (s : ArraySize)
  | lifetime (l : Lifetime)
  /-- An entry of a binder. -/
  | introduced (l : LifetimeParam)

namespace Part

/-- **Everything that stands immediately in a part**, in the order in which it is written. -/
def children : Part → List Part
  | pattern (.literal _ _ _) | pattern (.wildcard _) => []
  | pattern (.ident _ _ _ bind _) => bind.toList.map pattern
  | pattern (.range lower upper _ _) => [rangeBound lower, rangeBound upper]
  | pattern (.reference inner _ _ _) | pattern (.grouped inner _) => [pattern inner]
  | pattern (.struct path elems) => [exprPath path, elements elems]
  | pattern (.tupleStruct path is) => exprPath path :: is.toList.map (items .tupleStruct)
  | pattern (.tuple is _) => is.toList.map (items .tuple)
  | pattern (.slice ps _) => ps.map pattern
  | rangeBound (.literal _ _ _) => []
  | rangeBound (.path path) => [exprPath path]
  | rangeBound (.qualified path) => [qualifiedExprPath path]
  | elements ⟨fields, _, _⟩ => fields.map field
  | field f => f.pattern?.toList.map pattern
  | items _ is => is.patterns.map pattern
  | qualifiedExprPath ⟨q, segments, _⟩ => qself q :: segments.map exprSegment
  | exprPath ⟨segments, _, _⟩ => segments.map exprSegment
  | exprSegment ⟨_, a, _⟩ => [args a]
  | args ⟨lifetimes, types, bindings⟩ =>
      lifetimes.map lifetime ++ types.map ty ++ bindings.map binding
  | binding ⟨_, t, _⟩ => [ty t]
  | qself ⟨t, asTrait, _⟩ => ty t :: asTrait.toList.map typePath
  | typePath ⟨segments, _, _⟩ => segments.map typeSegment
  | typeSegment (.plain _ _) => []
  | typeSegment (.generic _ a _) => [args a]
  | typeSegment (.function _ inputs output _) => inputs.map ty ++ output.toList.map ty
  | qualifiedPath ⟨q, segments, _⟩ => qself q :: segments.map typeSegment
  | ty (.implTrait bounds _) | ty (.traitObject bounds _ _) => bounds.map typeBound
  | ty (.operand t) => [operand t]
  | operand (.paren inner _) | operand (.slice inner _) => [ty inner]
  | operand (.implOne bound _) | operand (.objectOne bound _ _) => [traitBound bound]
  | operand (.path p) => [typePath p]
  | operand (.qualified p) => [qualifiedPath p]
  | operand (.tuple elems _) => elems.map ty
  | operand (.never _) | operand (.inferred _) => []
  | operand (.pointer _ pointee _) => [operand pointee]
  | operand (.reference l _ referent _) => l.toList.map lifetime ++ [operand referent]
  | operand (.array elem size _) => [ty elem, arraySize size]
  | operand (.function binder _ params _ output _) =>
      binder.map introduced ++ params.map param ++ output.toList.map ty
  | traitBound ⟨path, _, _, binder, _⟩ => binder.map introduced ++ [typePath path]
  | typeBound (.trait b) => [traitBound b]
  | typeBound (.lifetime l) => [lifetime l]
  | param ⟨_, _, t, _⟩ => t.toList.map ty
  | arraySize (.literal _) | arraySize (.expr _) => []
  | arraySize (.path p) => [exprPath p]
  | lifetime _ => []
  | introduced ⟨l, bounds, _⟩ => lifetime l :: bounds.map lifetime

/-- What a traversal goes on to.  It does not go into the segments of a qualified path in a type,
nor to the lifetimes that an introduced lifetime outlives. -/
def walked : Part → List Part
  | qualifiedPath ⟨q, _, _⟩ => [qself q]
  | introduced ⟨l, _, _⟩ => [lifetime l]
  | part => part.children

/-- The node that a traversal stops at.  A type that is a path is stopped at as a path only. -/
def node? : Part → Option Node
  | pattern p => some (.pattern p)
  | rangeBound b => some (.rangeBound b)
  | field f => some (.field f)
  | items style i => some (.items style i)
  | exprPath p => some (.exprPath p)
  | typePath p => some (.typePath p)
  | qualifiedPath p => some (.qualifiedPath p)
  | ty (.operand _) | operand (.path _) | operand (.qualified _) => none
  | ty t => some (.ty t)
  | operand t => some (.ty (.operand t))
  | traitBound b => some (.traitBound b)
  | lifetime l => some (.lifetime l)
  | param p => some (.param p)
  | elements _ | qualifiedExprPath _ | exprSegment _ | args _ | binding _ | qself _
  | typeSegment _ | typeBound _ | arraySize _ | introduced _ => none

variable {ε : Type}

/-- The traversal of each family. -/
def visit (v : Visitor ε) : Part → List ε
  | pattern p => p.visit v
  | rangeBound b => b.visit v
  | elements e => e.visit v
  | field f => f.visit v
  | items style i => i.visit v style
  | qualifiedExprPath p => p.visit v
  | exprPath p => p.visit v
  | exprSegment s => s.visit v
  | args a => a.visit v
  | binding b => b.visit v
  | qself q => q.visit v
  | typePath p => p.visit v
  | typeSegment s => s.visit v
  | qualifiedPath p => p.visit v
  | ty t => t.visit v
  | operand t => t.visit v
  | traitBound b => b.visit v
  | typeBound b => b.visit v
  | param p => p.visit v
  | arraySize s => s.visit v
  | lifetime l => l.visit v
  | introduced l => l.lifetime.visit v

/-! ### Induction -/

/-- What a traversal does not go on to comes after what it goes on to. -/
theorem walked_prefix (p : Part) : p.walked <+: p.children := by
  cases p with
  | qualifiedPath p =>
      obtain ⟨q, segments, site⟩ := p
      exact List.prefix_append [qself q] (segments.map typeSegment)
  | introduced l =>
      obtain ⟨l, bounds, span⟩ := l
      exact List.prefix_append [lifetime l] (bounds.map lifetime)
  | _ => exact List.prefix_refl _

theorem sizeOf_lt_of_mem_map {α : Type} [SizeOf α] {k : α → Part} {xs : List α} {c : Part}
    (h : c ∈ xs.map k) (hk : ∀ x, sizeOf (k x) = 1 + sizeOf x) : sizeOf c < 1 + sizeOf xs := by
  obtain ⟨x, hx, rfl⟩ := List.mem_map.1 h
  have hlt : sizeOf x < sizeOf xs := List.sizeOf_lt_of_mem hx
  have hkx := hk x
  omega

theorem sizeOf_lt_of_mem_option {α : Type} [SizeOf α] {k : α → Part} {x : Option α} {c : Part}
    (h : c ∈ x.toList.map k) (hk : ∀ x, sizeOf (k x) = 1 + sizeOf x) : sizeOf c < 1 + sizeOf x := by
  obtain ⟨y, hy, rfl⟩ := List.mem_map.1 h
  obtain rfl : x = some y := Option.mem_toList.1 hy
  have hkx := hk y
  simp only [Option.some.sizeOf_spec]
  omega

-- The two families with most forms come first, each of the others is a case of the lemma after them.
theorem sizeOf_lt_of_mem_pattern {c : Part} {p : Pattern} (h : c ∈ (pattern p).children) :
    sizeOf c < sizeOf (pattern p) := by
  cases p with
  | ident x r m bind s =>
      have hc := sizeOf_lt_of_mem_option h fun _ => rfl
      simp only [Part.pattern.sizeOf_spec, Pattern.ident.sizeOf_spec]
      omega
  | slice ps s =>
      have hc := sizeOf_lt_of_mem_map h fun _ => rfl
      simp only [Part.pattern.sizeOf_spec, Pattern.slice.sizeOf_spec]
      omega
  | tupleStruct path is =>
      rcases List.mem_cons.1 h with rfl | h
      · simp only [Part.pattern.sizeOf_spec, Part.exprPath.sizeOf_spec,
          Pattern.tupleStruct.sizeOf_spec]
        omega
      · obtain ⟨i, hi, rfl⟩ := List.mem_map.1 h
        obtain rfl : is = some i := Option.mem_toList.1 hi
        simp only [Part.pattern.sizeOf_spec, Part.items.sizeOf_spec,
          Pattern.tupleStruct.sizeOf_spec, Option.some.sizeOf_spec,
          ItemsStyle.tupleStruct.sizeOf_spec]
        omega
  | tuple is s =>
      obtain ⟨i, hi, rfl⟩ := List.mem_map.1 h
      obtain rfl : is = some i := Option.mem_toList.1 hi
      simp only [Part.pattern.sizeOf_spec, Part.items.sizeOf_spec, Pattern.tuple.sizeOf_spec,
        Option.some.sizeOf_spec, ItemsStyle.tuple.sizeOf_spec]
      omega
  | _ => simp [children] at h <;> rcases h with rfl | rfl <;> simp <;> omega

theorem sizeOf_lt_of_mem_operand {c : Part} {t : OperandTy} (h : c ∈ (operand t).children) :
    sizeOf c < sizeOf (operand t) := by
  cases t with
  | tuple elems site =>
      have hc := sizeOf_lt_of_mem_map h fun _ => rfl
      simp only [Part.operand.sizeOf_spec, OperandTy.tuple.sizeOf_spec]
      omega
  | reference l isMut referent site =>
      simp only [Part.operand.sizeOf_spec, OperandTy.reference.sizeOf_spec]
      rcases List.mem_append.1 h with h | h
      · have hc := sizeOf_lt_of_mem_option h fun _ => rfl
        omega
      · obtain rfl : c = operand referent := List.mem_singleton.1 h
        simp only [Part.operand.sizeOf_spec]
        omega
  | function binder quals params variadic output site =>
      simp only [Part.operand.sizeOf_spec, OperandTy.function.sizeOf_spec]
      rcases List.mem_append.1 h with h | h
      · rcases List.mem_append.1 h with h | h
        · have hc := sizeOf_lt_of_mem_map h fun _ => rfl
          omega
        · have hc := sizeOf_lt_of_mem_map h fun _ => rfl
          omega
      · have hc := sizeOf_lt_of_mem_option h fun _ => rfl
        omega
  | _ => simp [children] at h <;> rcases h with rfl | rfl <;> simp <;> omega

/-- What stands immediately in a part is smaller. -/
theorem sizeOf_lt_of_mem_children {c p : Part} (h : c ∈ p.children) : sizeOf c < sizeOf p := by
  cases p with
  | pattern p => exact sizeOf_lt_of_mem_pattern h
  | operand t => exact sizeOf_lt_of_mem_operand h
  | rangeBound b =>
      cases b with
      | literal v m s => cases h
      | path p =>
          obtain rfl : c = exprPath p := List.mem_singleton.1 h
          simp
      | qualified p =>
          obtain rfl : c = qualifiedExprPath p := List.mem_singleton.1 h
          simp
  | elements e =>
      obtain ⟨fields, hasRest, restAttrs⟩ := e
      have hc := sizeOf_lt_of_mem_map h fun _ => rfl
      simp only [Part.elements.sizeOf_spec, Elements.mk.sizeOf_spec]
      omega
  | field f =>
      obtain ⟨q, hq, rfl⟩ := List.mem_map.1 h
      have hc : sizeOf q < sizeOf f := Field.sizeOf_lt_of_pattern? (Option.mem_toList.1 hq)
      simp only [Part.pattern.sizeOf_spec, Part.field.sizeOf_spec]
      omega
  | items style is =>
      obtain ⟨q, hq, rfl⟩ := List.mem_map.1 h
      have hc : sizeOf q < sizeOf is := Items.sizeOf_lt_of_mem hq
      simp only [Part.pattern.sizeOf_spec, Part.items.sizeOf_spec]
      omega
  | qualifiedExprPath p =>
      obtain ⟨q, segments, span⟩ := p
      simp only [Part.qualifiedExprPath.sizeOf_spec, QualifiedExprPath.mk.sizeOf_spec]
      rcases List.mem_cons.1 h with rfl | h
      · simp only [Part.qself.sizeOf_spec]
        omega
      · have hc := sizeOf_lt_of_mem_map h fun _ => rfl
        omega
  | exprPath p =>
      obtain ⟨segments, rooted, span⟩ := p
      have hc := sizeOf_lt_of_mem_map h fun _ => rfl
      simp only [Part.exprPath.sizeOf_spec, ExprPath.mk.sizeOf_spec]
      omega
  | exprSegment s =>
      obtain ⟨name, a, span⟩ := s
      obtain rfl : c = args a := by simpa [children] using h
      simp only [Part.exprSegment.sizeOf_spec, Part.args.sizeOf_spec, ExprSegment.mk.sizeOf_spec]
      omega
  | args a =>
      obtain ⟨lifetimes, types, bindings⟩ := a
      simp only [Part.args.sizeOf_spec, GenericArgs.mk.sizeOf_spec]
      rcases List.mem_append.1 h with h | h
      · rcases List.mem_append.1 h with h | h
        · have hc := sizeOf_lt_of_mem_map h fun _ => rfl
          omega
        · have hc := sizeOf_lt_of_mem_map h fun _ => rfl
          omega
      · have hc := sizeOf_lt_of_mem_map h fun _ => rfl
        omega
  | binding b =>
      obtain ⟨name, t, span⟩ := b
      obtain rfl : c = ty t := by simpa [children] using h
      simp only [Part.binding.sizeOf_spec, Part.ty.sizeOf_spec, Binding.mk.sizeOf_spec]
      omega
  | qself q =>
      obtain ⟨t, asTrait, span⟩ := q
      simp only [Part.qself.sizeOf_spec, QualifiedSelf.mk.sizeOf_spec]
      rcases List.mem_cons.1 h with rfl | h
      · simp only [Part.ty.sizeOf_spec]
        omega
      · have hc := sizeOf_lt_of_mem_option h fun _ => rfl
        omega
  | typePath p =>
      obtain ⟨segments, rooted, site⟩ := p
      have hc := sizeOf_lt_of_mem_map h fun _ => rfl
      simp only [Part.typePath.sizeOf_spec, TypePath.mk.sizeOf_spec]
      omega
  | typeSegment s =>
      cases s with
      | plain name span => cases h
      | generic name a span =>
          obtain rfl : c = args a := by simpa [children] using h
          simp only [Part.typeSegment.sizeOf_spec, Part.args.sizeOf_spec,
            TypeSegment.generic.sizeOf_spec]
          omega
      | function name inputs output span =>
          simp only [Part.typeSegment.sizeOf_spec, TypeSegment.function.sizeOf_spec]
          rcases List.mem_append.1 h with h | h
          · have hc := sizeOf_lt_of_mem_map h fun _ => rfl
            omega
          · have hc := sizeOf_lt_of_mem_option h fun _ => rfl
            omega
  | qualifiedPath p =>
      obtain ⟨q, segments, site⟩ := p
      simp only [Part.qualifiedPath.sizeOf_spec, QualifiedTypePath.mk.sizeOf_spec]
      rcases List.mem_cons.1 h with rfl | h
      · simp only [Part.qself.sizeOf_spec]
        omega
      · have hc := sizeOf_lt_of_mem_map h fun _ => rfl
        omega
  | ty t =>
      cases t with
      | operand t =>
          obtain rfl : c = operand t := by simpa [children] using h
          simp only [Part.ty.sizeOf_spec, Part.operand.sizeOf_spec, Ty.operand.sizeOf_spec]
          omega
      | implTrait bounds site =>
          have hc := sizeOf_lt_of_mem_map h fun _ => rfl
          simp only [Part.ty.sizeOf_spec, Ty.implTrait.sizeOf_spec]
          omega
      | traitObject bounds hasDyn site =>
          have hc := sizeOf_lt_of_mem_map h fun _ => rfl
          simp only [Part.ty.sizeOf_spec, Ty.traitObject.sizeOf_spec]
          omega
  | traitBound b =>
      obtain ⟨path, inParens, maybe, binder, span⟩ := b
      simp only [Part.traitBound.sizeOf_spec, TraitBound.mk.sizeOf_spec]
      rcases List.mem_append.1 h with h | h
      · have hc := sizeOf_lt_of_mem_map h fun _ => rfl
        omega
      · obtain rfl : c = typePath path := List.mem_singleton.1 h
        simp only [Part.typePath.sizeOf_spec]
        omega
  | typeBound b =>
      cases b with
      | trait b =>
          obtain rfl : c = traitBound b := List.mem_singleton.1 h
          simp
      | lifetime l =>
          obtain rfl : c = lifetime l := List.mem_singleton.1 h
          simp
  | param p =>
      obtain ⟨name, kind, t, span⟩ := p
      have hc := sizeOf_lt_of_mem_option h fun _ => rfl
      simp only [Part.param.sizeOf_spec, Param.mk.sizeOf_spec]
      omega
  | arraySize s =>
      cases s with
      | literal v => cases h
      | path p =>
          obtain rfl : c = exprPath p := List.mem_singleton.1 h
          simp
      | expr id => cases h
  | lifetime l => cases h
  | introduced l =>
      obtain ⟨l, bounds, span⟩ := l
      simp only [Part.introduced.sizeOf_spec, LifetimeParam.mk.sizeOf_spec]
      rcases List.mem_cons.1 h with rfl | h
      · simp only [Part.lifetime.sizeOf_spec]
        omega
      · have hc := sizeOf_lt_of_mem_map h fun _ => rfl
        omega

/-- **Induction along parts.** -/
@[elab_as_elim] theorem induction {motive : Part → Prop}
    (step : ∀ p, (∀ c ∈ p.children, motive c) → motive p) (p : Part) : motive p :=
  step p fun c _ => induction step c
termination_by sizeOf p
decreasing_by exact sizeOf_lt_of_mem_children ‹_›

/-! ### What a traversal does -/

/-- What a visitor answers at a part, given the answers from below.  Where the traversal does not
stop, the answers are passed on. -/
def answer (v : Visitor ε) (p : Part) (below : List ε) : List ε :=
  p.node?.elim below fun n => v n below

variable {v : Visitor ε}

/-- A companion of a traversal goes through the members of a list one after another. -/
theorem companion_eq_flatMap {α : Type} {k : α → Part} {all : List α → List ε}
    (hnil : all [] = []) (hcons : ∀ x xs, all (x :: xs) = (k x).visit v ++ all xs) (xs : List α) :
    all xs = (xs.map k).flatMap (visit v) := by
  induction xs with
  | nil => exact hnil
  | cons x xs ih => rw [hcons, ih, List.map_cons, List.flatMap_cons]

theorem companion_eq_option {α : Type} {k : α → Part} {opt : Option α → List ε}
    (hnone : opt none = []) (hsome : ∀ x, opt (some x) = (k x).visit v) (x : Option α) :
    opt x = (x.toList.map k).flatMap (visit v) := by
  cases x with
  | none => exact hnone
  | some x => rw [hsome, Option.toList_some, List.map_singleton, List.flatMap_singleton]

theorem patterns_eq (ps : List Pattern) :
    Pattern.visitAll v ps = (ps.map pattern).flatMap (visit v) :=
  companion_eq_flatMap rfl (fun _ _ => rfl) ps

theorem pattern?_eq (p : Option Pattern) :
    Pattern.visitOption v p = (p.toList.map pattern).flatMap (visit v) :=
  companion_eq_option rfl (fun _ => rfl) p

theorem fields_eq (fs : List Field) :
    Field.visitAll v fs = (fs.map field).flatMap (visit v) :=
  companion_eq_flatMap rfl (fun _ _ => rfl) fs

theorem items?_eq (style : ItemsStyle) (is : Option Items) :
    Items.visitOption v style is = (is.toList.map (items style)).flatMap (visit v) :=
  companion_eq_option rfl (fun _ => rfl) is

theorem lifetimes_eq (ls : List Lifetime) :
    Lifetime.visitAll v ls = (ls.map lifetime).flatMap (visit v) :=
  companion_eq_flatMap rfl (fun _ _ => rfl) ls

theorem binder_eq (ls : List LifetimeParam) :
    LifetimeParam.visitAll v ls = (ls.map introduced).flatMap (visit v) :=
  companion_eq_flatMap rfl (fun _ _ => rfl) ls

theorem bindings_eq (bs : List Binding) :
    Binding.visitAll v bs = (bs.map binding).flatMap (visit v) :=
  companion_eq_flatMap rfl (fun _ _ => rfl) bs

theorem exprSegments_eq (ss : List ExprSegment) :
    ExprSegment.visitAll v ss = (ss.map exprSegment).flatMap (visit v) :=
  companion_eq_flatMap rfl (fun _ _ => rfl) ss

theorem typeSegments_eq (ss : List TypeSegment) :
    TypeSegment.visitAll v ss = (ss.map typeSegment).flatMap (visit v) :=
  companion_eq_flatMap rfl (fun _ _ => rfl) ss

theorem typePath?_eq (p : Option TypePath) :
    TypePath.visitOption v p = (p.toList.map typePath).flatMap (visit v) :=
  companion_eq_option rfl (fun _ => rfl) p

theorem typeBounds_eq (bs : List TypeBound) :
    TypeBound.visitAll v bs = (bs.map typeBound).flatMap (visit v) :=
  companion_eq_flatMap rfl (fun _ _ => rfl) bs

theorem params_eq (ps : List Param) :
    Param.visitAll v ps = (ps.map param).flatMap (visit v) :=
  companion_eq_flatMap rfl (fun _ _ => rfl) ps

theorem tys_eq (ts : List Ty) : Ty.visitAll v ts = (ts.map ty).flatMap (visit v) :=
  companion_eq_flatMap rfl (fun _ _ => rfl) ts

theorem ty?_eq (t : Option Ty) : Ty.visitOption v t = (t.toList.map ty).flatMap (visit v) :=
  companion_eq_option rfl (fun _ => rfl) t

theorem visit_pattern_eq (p : Pattern) :
    (pattern p).visit v = v (.pattern p) ((pattern p).children.flatMap (visit v)) := by
  cases p <;>
    simp [visit, children, Pattern.visit, pattern?_eq, patterns_eq, items?_eq]

theorem visit_operand_eq (t : OperandTy) :
    (operand t).visit v =
      (operand t).answer v ((operand t).children.flatMap (visit v)) := by
  cases t <;>
    simp [visit, answer, node?, children, OperandTy.visit, tys_eq, ty?_eq, lifetimes_eq, binder_eq,
      params_eq]

/-- **What a traversal does at a part**: the visitor is asked if the part is a node, and it is given
the answers from all that the traversal goes on to. -/
theorem visit_eq (v : Visitor ε) (p : Part) :
    p.visit v = p.answer v (p.walked.flatMap (visit v)) := by
  cases p with
  | pattern p => exact visit_pattern_eq p
  | operand t => exact visit_operand_eq t
  | rangeBound b => cases b <;> simp [visit, answer, node?, walked, children, RangeBound.visit]
  | elements e =>
      cases e
      simp [visit, answer, node?, walked, children, Elements.visit, fields_eq]
  | field f =>
      cases f <;>
        simp [visit, answer, node?, walked, children, Field.visit, Field.pattern?, pattern?_eq]
  | items style is =>
      cases is <;>
        simp [visit, answer, node?, walked, children, Items.visit, Items.patterns, patterns_eq]
  | qualifiedExprPath p =>
      cases p
      simp [visit, answer, node?, walked, children, QualifiedExprPath.visit, exprSegments_eq]
  | exprPath p =>
      cases p
      simp [visit, answer, node?, walked, children, ExprPath.visit, exprSegments_eq]
  | exprSegment s =>
      cases s
      simp [visit, answer, node?, walked, children, ExprSegment.visit]
  | args a =>
      cases a
      simp [visit, answer, node?, walked, children, GenericArgs.visit, lifetimes_eq, tys_eq,
        bindings_eq]
  | binding b =>
      cases b
      simp [visit, answer, node?, walked, children, Binding.visit]
  | qself q =>
      cases q
      simp [visit, answer, node?, walked, children, QualifiedSelf.visit, typePath?_eq]
  | typePath p =>
      cases p
      simp [visit, answer, node?, walked, children, TypePath.visit, typeSegments_eq]
  | typeSegment s =>
      cases s <;>
        simp [visit, answer, node?, walked, children, TypeSegment.visit, tys_eq, ty?_eq]
  | qualifiedPath p =>
      cases p
      simp [visit, answer, node?, walked, QualifiedTypePath.visit]
  | ty t => cases t <;> simp [visit, answer, node?, walked, children, Ty.visit, typeBounds_eq]
  | traitBound b =>
      cases b
      simp [visit, answer, node?, walked, children, TraitBound.visit, binder_eq]
  | typeBound b => cases b <;> simp [visit, answer, node?, walked, children, TypeBound.visit]
  | param p =>
      cases p
      simp [visit, answer, node?, walked, children, Param.visit, ty?_eq]
  | arraySize s => cases s <;> simp [visit, answer, node?, walked, children, ArraySize.visit]
  | lifetime l => simp [visit, answer, node?, walked, children, Lifetime.visit]
  | introduced l =>
      cases l
      simp [visit, answer, node?, walked]

end Part

end SurfaceTree
