/-
Trees without spans and tags.

A span says where a node stands in the source, and a tag ties it to what an analysis has found out
about it.  Neither belongs to what the node means.  Here both are taken away, everywhere in a tree;
two trees that are the same afterwards differ in spans and tags only.

Main definitions:

* `Ty.unplaced`, `Pattern.unplaced` and their companions — **the node with all spans and tags set to
  the dummies**;
* `Ty.Alike`, `TraitBound.Alike`, `Pattern.Alike` — two nodes differ in spans and tags only.

Main results:

* `Ty.render_unplaced`, `Pattern.render_unplaced` — spans and tags are not written.
-/

import SurfaceTree.Pattern.Render

set_option relaxedAutoImplicit false
set_option autoImplicit false

namespace SurfaceTree

/-- The place of a node that stands nowhere and was never lowered. -/
def Site.dummy : Site := ⟨.dummy, .dummy⟩

/-! ### Leaves -/

/-- A literal without its span. -/
def Literal.unplaced (v : Literal) : Literal := { v with span := .dummy }

/-- A lifetime without its span. -/
def Lifetime.unplaced (l : Lifetime) : Lifetime := { l with span := .dummy }

/-- A lifetime of a binder, and its bounds, without their spans. -/
def LifetimeParam.unplaced (l : LifetimeParam) : LifetimeParam :=
  ⟨l.lifetime.unplaced, l.bounds.map Lifetime.unplaced, .dummy⟩

mutual

/-- A meta item without the spans of its literals. -/
def MetaItem.unplaced : MetaItem → MetaItem
  | .word p => .word p
  | .nameValue p v => .nameValue p v.unplaced
  | .list p ms => .list p (MetaItem.unplacedAll ms)
  | .literal v => .literal v.unplaced

/-- The meta items of a list, one by one. -/
def MetaItem.unplacedAll : List MetaItem → List MetaItem
  | [] => []
  | m :: ms => m.unplaced :: MetaItem.unplacedAll ms

end

/-- An attribute without its span and those of its literals. -/
def Attribute.unplaced (a : Attribute) : Attribute := ⟨a.item.unplaced, .dummy⟩

/-! ### Types -/

mutual

/-- The arguments between angle brackets, of every kind. -/
def GenericArgs.unplaced : GenericArgs → GenericArgs
  | ⟨lifetimes, types, bindings⟩ =>
      ⟨lifetimes.map Lifetime.unplaced, Ty.unplacedAll types, Binding.unplacedAll bindings⟩

/-- An associated type and what it is fixed to. -/
def Binding.unplaced : Binding → Binding
  | ⟨name, ty, _⟩ => ⟨name, ty.unplaced, .dummy⟩

/-- The associated types of a list, one by one. -/
def Binding.unplacedAll : List Binding → List Binding
  | [] => []
  | b :: bs => b.unplaced :: Binding.unplacedAll bs

/-- A segment in an expression. -/
def ExprSegment.unplaced : ExprSegment → ExprSegment
  | ⟨name, args, _⟩ => ⟨name, args.unplaced, .dummy⟩

/-- The segments of a list, one by one. -/
def ExprSegment.unplacedAll : List ExprSegment → List ExprSegment
  | [] => []
  | s :: ss => s.unplaced :: ExprSegment.unplacedAll ss

/-- A path in an expression. -/
def ExprPath.unplaced : ExprPath → ExprPath
  | ⟨segments, rooted, _⟩ => ⟨ExprSegment.unplacedAll segments, rooted, .dummy⟩

/-- The start of a qualified path. -/
def QualifiedSelf.unplaced : QualifiedSelf → QualifiedSelf
  | ⟨ty, asTrait, _⟩ => ⟨ty.unplaced, TypePath.unplacedOption asTrait, .dummy⟩

/-- A segment in a type. -/
def TypeSegment.unplaced : TypeSegment → TypeSegment
  | .plain name _ => .plain name .dummy
  | .generic name args _ => .generic name args.unplaced .dummy
  | .function name inputs output _ =>
      .function name (Ty.unplacedAll inputs) (Ty.unplacedOption output) .dummy

/-- The segments of a list, one by one. -/
def TypeSegment.unplacedAll : List TypeSegment → List TypeSegment
  | [] => []
  | s :: ss => s.unplaced :: TypeSegment.unplacedAll ss

/-- A path in a type. -/
def TypePath.unplaced : TypePath → TypePath
  | ⟨segments, rooted, _⟩ => ⟨TypeSegment.unplacedAll segments, rooted, .dummy⟩

/-- A path in a type, if it is there. -/
def TypePath.unplacedOption : Option TypePath → Option TypePath
  | none => none
  | some p => some p.unplaced

/-- A qualified path in a type. -/
def QualifiedTypePath.unplaced : QualifiedTypePath → QualifiedTypePath
  | ⟨qself, segments, _⟩ => ⟨qself.unplaced, TypeSegment.unplacedAll segments, .dummy⟩

/-- A trait with its binder. -/
def TraitBound.unplaced : TraitBound → TraitBound
  | ⟨path, inParens, maybe, binder, _⟩ =>
      ⟨path.unplaced, inParens, maybe, binder.map LifetimeParam.unplaced, .dummy⟩

/-- An entry of a list of bounds. -/
def TypeBound.unplaced : TypeBound → TypeBound
  | .trait b => .trait b.unplaced
  | .lifetime l => .lifetime l.unplaced

/-- The bounds of a list, one by one. -/
def TypeBound.unplacedAll : List TypeBound → List TypeBound
  | [] => []
  | b :: bs => b.unplaced :: TypeBound.unplacedAll bs

/-- The length of an array.  A handle has no span. -/
def ArraySize.unplaced : ArraySize → ArraySize
  | .literal v => .literal v.unplaced
  | .path p => .path p.unplaced
  | .expr i => .expr i

/-- A parameter of a function type. -/
def Param.unplaced : Param → Param
  | ⟨name, kind, ty, _⟩ => ⟨name, kind, Ty.unplacedOption ty, .dummy⟩

/-- The parameters of a list, one by one. -/
def Param.unplacedAll : List Param → List Param
  | [] => []
  | p :: ps => p.unplaced :: Param.unplacedAll ps

/-- **An operand type with all spans and tags set to the dummies.** -/
def OperandTy.unplaced : OperandTy → OperandTy
  | .paren inner _ => .paren inner.unplaced .dummy
  | .implOne bound _ => .implOne bound.unplaced .dummy
  | .objectOne bound hasDyn _ => .objectOne bound.unplaced hasDyn .dummy
  | .path p => .path p.unplaced
  | .qualified p => .qualified p.unplaced
  | .tuple elems _ => .tuple (Ty.unplacedAll elems) .dummy
  | .never _ => .never .dummy
  | .pointer isMut pointee _ => .pointer isMut pointee.unplaced .dummy
  | .reference lifetime isMut referent _ =>
      .reference (lifetime.map Lifetime.unplaced) isMut referent.unplaced .dummy
  | .array elem size _ => .array elem.unplaced size.unplaced .dummy
  | .slice elem _ => .slice elem.unplaced .dummy
  | .inferred _ => .inferred .dummy
  | .function binder quals params variadic output _ =>
      .function (binder.map LifetimeParam.unplaced) quals (Param.unplacedAll params) variadic
        (Ty.unplacedOption output) .dummy

/-- **A type with all spans and tags set to the dummies.** -/
def Ty.unplaced : Ty → Ty
  | .implTrait bounds _ => .implTrait (TypeBound.unplacedAll bounds) .dummy
  | .traitObject bounds hasDyn _ => .traitObject (TypeBound.unplacedAll bounds) hasDyn .dummy
  | .operand t => .operand t.unplaced

/-- The types of a list, one by one. -/
def Ty.unplacedAll : List Ty → List Ty
  | [] => []
  | t :: ts => t.unplaced :: Ty.unplacedAll ts

/-- A type, if it is there. -/
def Ty.unplacedOption : Option Ty → Option Ty
  | none => none
  | some t => some t.unplaced

end

/-- A qualified path in an expression. -/
def QualifiedExprPath.unplaced (p : QualifiedExprPath) : QualifiedExprPath :=
  ⟨p.qself.unplaced, ExprSegment.unplacedAll p.segments, .dummy⟩

/-! ### Patterns -/

/-- An end of a range. -/
def RangeBound.unplaced : RangeBound → RangeBound
  | .literal v m _ => .literal v.unplaced m .dummy
  | .path p => .path p.unplaced
  | .qualified p => .qualified p.unplaced

mutual

/-- **A pattern with all spans and tags set to the dummies**, those of its attributes and of the
types in its paths included. -/
def Pattern.unplaced : Pattern → Pattern
  | .literal v m _ => .literal v.unplaced m .dummy
  | .ident name isRef isMut bind _ =>
      .ident name isRef isMut (Pattern.unplacedOption bind) .dummy
  | .wildcard _ => .wildcard .dummy
  | .range lower upper ellipsis _ => .range lower.unplaced upper.unplaced ellipsis .dummy
  | .reference inner twoAmps isMut _ => .reference inner.unplaced twoAmps isMut .dummy
  | .struct path elems => .struct path.unplaced elems.unplaced
  | .tupleStruct path items => .tupleStruct path.unplaced (Items.unplacedOption items)
  | .tuple items _ => .tuple (Items.unplacedOption items) .dummy
  | .grouped inner _ => .grouped inner.unplaced .dummy
  | .slice items _ => .slice (Pattern.unplacedAll items) .dummy

/-- The patterns of a list, one by one. -/
def Pattern.unplacedAll : List Pattern → List Pattern
  | [] => []
  | p :: ps => p.unplaced :: Pattern.unplacedAll ps

/-- A pattern, if it is there. -/
def Pattern.unplacedOption : Option Pattern → Option Pattern
  | none => none
  | some p => some p.unplaced

/-- The fields and the attributes of the rest marker. -/
def Elements.unplaced : Elements → Elements
  | ⟨fields, hasRest, restAttrs⟩ =>
      ⟨Field.unplacedAll fields, hasRest, restAttrs.map Attribute.unplaced⟩

/-- A field with its attributes. -/
def Field.unplaced : Field → Field
  | .indexed i p as _ =>
      .indexed i (Pattern.unplacedOption p) (as.map Attribute.unplaced) .dummy
  | .named x p as _ => .named x (Pattern.unplacedOption p) (as.map Attribute.unplaced) .dummy
  | .shorthand x r m as _ => .shorthand x r m (as.map Attribute.unplaced) .dummy

/-- The fields of a list, one by one. -/
def Field.unplacedAll : List Field → List Field
  | [] => []
  | f :: fs => f.unplaced :: Field.unplacedAll fs

/-- The items on both sides of the rest marker. -/
def Items.unplaced : Items → Items
  | .flat patterns _ => .flat (Pattern.unplacedAll patterns) .dummy
  | .ranged lower upper _ =>
      .ranged (Pattern.unplacedAll lower) (Pattern.unplacedAll upper) .dummy

/-- A list of items, if it is there. -/
def Items.unplacedOption : Option Items → Option Items
  | none => none
  | some items => some items.unplaced

end

/-- Two types differ in spans and tags only. -/
def Ty.Alike (t u : Ty) : Prop := t.unplaced = u.unplaced

/-- Two bounds differ in spans and tags only. -/
def TraitBound.Alike (b c : TraitBound) : Prop := b.unplaced = c.unplaced

/-- Two patterns differ in spans and tags only. -/
def Pattern.Alike (p q : Pattern) : Prop := p.unplaced = q.unplaced

/-! ### Spans and tags are not written -/

@[simp] theorem Literal.render_unplaced (v : Literal) : v.unplaced.render = v.render := rfl

@[simp] theorem Lifetime.render_unplaced (l : Lifetime) : l.unplaced.render = l.render := rfl

@[simp] theorem Lifetime.map_render_unplaced (ls : List Lifetime) :
    (ls.map Lifetime.unplaced).map Lifetime.render = ls.map Lifetime.render := by
  rw [List.map_map]
  rfl

@[simp] theorem LifetimeParam.render_unplaced (l : LifetimeParam) :
    l.unplaced.render = l.render := by
  have hbounds := Lifetime.map_render_unplaced l.bounds
  exact congrArg (Text.writeFrom (fun i => if i = 0 then ": " else " + ") l.lifetime.render 0)
    hbounds

@[simp] theorem LifetimeParam.renderBinder_map_unplaced (ls : List LifetimeParam) :
    LifetimeParam.renderBinder (ls.map LifetimeParam.unplaced) =
      LifetimeParam.renderBinder ls := by
  cases ls with
  | nil => rfl
  | cons l ls =>
      have hall : ((l :: ls).map LifetimeParam.unplaced).map LifetimeParam.render =
          (l :: ls).map LifetimeParam.render := by
        rw [List.map_map]
        exact List.map_congr_left fun l _ => l.render_unplaced
      exact congrArg (fun texts => "for<" ++ Text.separated ", " texts ++ "> ") hall

mutual

@[simp] theorem MetaItem.render_unplaced (m : MetaItem) : m.unplaced.render = m.render := by
  match m with
  | .word p => rfl
  | .nameValue p v => rfl
  | .list p ms => simp [MetaItem.unplaced, MetaItem.render, MetaItem.renderAll_unplacedAll ms]
  | .literal v => rfl

@[simp] theorem MetaItem.renderAll_unplacedAll (ms : List MetaItem) :
    MetaItem.renderAll (MetaItem.unplacedAll ms) = MetaItem.renderAll ms := by
  match ms with
  | [] => rfl
  | m :: ms =>
      simp [MetaItem.unplacedAll, MetaItem.renderAll, MetaItem.render_unplaced m,
        MetaItem.renderAll_unplacedAll ms]

end

@[simp] theorem Attribute.render_unplaced (a : Attribute) : a.unplaced.render = a.render := by
  rw [unplaced, render, render, MetaItem.render_unplaced]

@[simp] theorem Attribute.renderOuter_map_unplaced (as : List Attribute) :
    Attribute.renderOuter (as.map Attribute.unplaced) = Attribute.renderOuter as := by
  rw [renderOuter, renderOuter, List.map_map]
  exact congrArg String.join (List.map_congr_left fun a _ => by simp)

@[simp] theorem Ty.length_unplacedAll (ts : List Ty) : (Ty.unplacedAll ts).length = ts.length := by
  induction ts with
  | nil => rfl
  | cons t ts ih => rw [Ty.unplacedAll, List.length_cons, List.length_cons, ih]

@[simp] theorem Param.isEmpty_unplacedAll (ps : List Param) :
    (Param.unplacedAll ps).isEmpty = ps.isEmpty := by
  cases ps <;> rfl

@[simp] theorem GenericArgs.isEmpty_unplaced (a : GenericArgs) :
    a.unplaced.isEmpty = a.isEmpty := by
  obtain ⟨lifetimes, types, bindings⟩ := a
  cases lifetimes <;> cases types <;> cases bindings <;> rfl

mutual

@[simp] theorem GenericArgs.render_unplaced (a : GenericArgs) : a.unplaced.render = a.render := by
  match a with
  | ⟨lifetimes, types, bindings⟩ =>
      simp only [GenericArgs.unplaced, GenericArgs.render, Lifetime.map_render_unplaced,
        Ty.renderAll_unplacedAll types, Binding.renderAll_unplacedAll bindings]

@[simp] theorem Binding.render_unplaced (b : Binding) : b.unplaced.render = b.render := by
  match b with
  | ⟨name, ty, span⟩ => simp only [Binding.unplaced, Binding.render, Ty.render_unplaced ty]

@[simp] theorem Binding.renderAll_unplacedAll (bs : List Binding) :
    Binding.renderAll (Binding.unplacedAll bs) = Binding.renderAll bs := by
  match bs with
  | [] => rfl
  | b :: bs =>
      simp only [Binding.unplacedAll, Binding.renderAll, Binding.render_unplaced b,
        Binding.renderAll_unplacedAll bs]

@[simp] theorem ExprSegment.render_unplaced (s : ExprSegment) : s.unplaced.render = s.render := by
  match s with
  | ⟨name, args, span⟩ =>
      simp only [ExprSegment.unplaced, ExprSegment.render, GenericArgs.isEmpty_unplaced,
        GenericArgs.render_unplaced args]

@[simp] theorem ExprSegment.renderAll_unplacedAll (ss : List ExprSegment) :
    ExprSegment.renderAll (ExprSegment.unplacedAll ss) = ExprSegment.renderAll ss := by
  match ss with
  | [] => rfl
  | s :: ss =>
      simp only [ExprSegment.unplacedAll, ExprSegment.renderAll, ExprSegment.render_unplaced s,
        ExprSegment.renderAll_unplacedAll ss]

@[simp] theorem ExprPath.render_unplaced (p : ExprPath) : p.unplaced.render = p.render := by
  match p with
  | ⟨segments, rooted, span⟩ =>
      simp only [ExprPath.unplaced, ExprPath.render, ExprSegment.renderAll_unplacedAll segments]

@[simp] theorem QualifiedSelf.render_unplaced (q : QualifiedSelf) :
    q.unplaced.render = q.render := by
  match q with
  | ⟨ty, asTrait, span⟩ =>
      simp only [QualifiedSelf.unplaced, QualifiedSelf.render, Ty.render_unplaced ty,
        TypePath.renderAsTrait_unplacedOption asTrait]

@[simp] theorem TypeSegment.render_unplaced (s : TypeSegment) : s.unplaced.render = s.render := by
  match s with
  | .plain name span => rfl
  | .generic name args span =>
      simp only [TypeSegment.unplaced, TypeSegment.render, GenericArgs.isEmpty_unplaced,
        GenericArgs.render_unplaced args]
  | .function name inputs output span =>
      simp only [TypeSegment.unplaced, TypeSegment.render, Ty.renderAll_unplacedAll inputs,
        Ty.renderOutput_unplacedOption output]

@[simp] theorem TypeSegment.renderAll_unplacedAll (ss : List TypeSegment) :
    TypeSegment.renderAll (TypeSegment.unplacedAll ss) = TypeSegment.renderAll ss := by
  match ss with
  | [] => rfl
  | s :: ss =>
      simp only [TypeSegment.unplacedAll, TypeSegment.renderAll, TypeSegment.render_unplaced s,
        TypeSegment.renderAll_unplacedAll ss]

@[simp] theorem TypePath.render_unplaced (p : TypePath) : p.unplaced.render = p.render := by
  match p with
  | ⟨segments, rooted, site⟩ =>
      simp only [TypePath.unplaced, TypePath.render, TypeSegment.renderAll_unplacedAll segments]

@[simp] theorem TypePath.renderAsTrait_unplacedOption (p : Option TypePath) :
    TypePath.renderAsTrait (TypePath.unplacedOption p) = TypePath.renderAsTrait p := by
  match p with
  | none => rfl
  | some p =>
      simp only [TypePath.unplacedOption, TypePath.renderAsTrait, TypePath.render_unplaced p]

@[simp] theorem QualifiedTypePath.render_unplaced (p : QualifiedTypePath) :
    p.unplaced.render = p.render := by
  match p with
  | ⟨qself, segments, site⟩ =>
      simp only [QualifiedTypePath.unplaced, QualifiedTypePath.render,
        QualifiedSelf.render_unplaced qself, TypeSegment.renderAll_unplacedAll segments]

@[simp] theorem TraitBound.render_unplaced (b : TraitBound) : b.unplaced.render = b.render := by
  match b with
  | ⟨path, inParens, maybe, binder, span⟩ =>
      simp only [TraitBound.unplaced, TraitBound.render, TypePath.render_unplaced path,
        LifetimeParam.renderBinder_map_unplaced]

@[simp] theorem TypeBound.render_unplaced (b : TypeBound) : b.unplaced.render = b.render := by
  match b with
  | .trait b => simp only [TypeBound.unplaced, TypeBound.render, TraitBound.render_unplaced b]
  | .lifetime l => rfl

@[simp] theorem TypeBound.renderAll_unplacedAll (bs : List TypeBound) :
    TypeBound.renderAll (TypeBound.unplacedAll bs) = TypeBound.renderAll bs := by
  match bs with
  | [] => rfl
  | b :: bs =>
      simp only [TypeBound.unplacedAll, TypeBound.renderAll, TypeBound.render_unplaced b,
        TypeBound.renderAll_unplacedAll bs]

@[simp] theorem ArraySize.render_unplaced (s : ArraySize) : s.unplaced.render = s.render := by
  match s with
  | .literal v => rfl
  | .path p => simp only [ArraySize.unplaced, ArraySize.render, ExprPath.render_unplaced p]
  | .expr i => rfl

@[simp] theorem Param.render_unplaced (p : Param) : p.unplaced.render = p.render := by
  match p with
  | ⟨name, kind, none, span⟩ => rfl
  | ⟨name, kind, some ty, span⟩ =>
      cases kind <;>
        simp only [Param.unplaced, Ty.unplacedOption, Param.render, Ty.render_unplaced ty]

@[simp] theorem Param.renderAll_unplacedAll (ps : List Param) :
    Param.renderAll (Param.unplacedAll ps) = Param.renderAll ps := by
  match ps with
  | [] => rfl
  | p :: ps =>
      simp only [Param.unplacedAll, Param.renderAll, Param.render_unplaced p,
        Param.renderAll_unplacedAll ps]

@[simp] theorem OperandTy.render_unplaced (t : OperandTy) : t.unplaced.render = t.render := by
  match t with
  | .paren inner site => simp only [OperandTy.unplaced, OperandTy.render, Ty.render_unplaced inner]
  | .implOne bound site =>
      simp only [OperandTy.unplaced, OperandTy.render, TraitBound.render_unplaced bound]
  | .objectOne bound hasDyn site =>
      simp only [OperandTy.unplaced, OperandTy.render, TraitBound.render_unplaced bound]
  | .path p => simp only [OperandTy.unplaced, OperandTy.render, TypePath.render_unplaced p]
  | .qualified p =>
      simp only [OperandTy.unplaced, OperandTy.render, QualifiedTypePath.render_unplaced p]
  | .tuple elems site =>
      simp only [OperandTy.unplaced, OperandTy.render, Ty.renderAll_unplacedAll elems,
        Ty.length_unplacedAll]
  | .never site => rfl
  | .pointer isMut pointee site =>
      simp only [OperandTy.unplaced, OperandTy.render, OperandTy.render_unplaced pointee]
  | .reference lifetime isMut referent site =>
      cases lifetime <;>
        simp only [OperandTy.unplaced, OperandTy.render, OperandTy.render_unplaced referent,
          Option.map_none, Option.map_some, Lifetime.render_unplaced]
  | .array elem size site =>
      simp only [OperandTy.unplaced, OperandTy.render, Ty.render_unplaced elem,
        ArraySize.render_unplaced size]
  | .slice elem site => simp only [OperandTy.unplaced, OperandTy.render, Ty.render_unplaced elem]
  | .inferred site => rfl
  | .function binder quals params variadic output site =>
      simp only [OperandTy.unplaced, OperandTy.render, LifetimeParam.renderBinder_map_unplaced,
        Param.renderAll_unplacedAll params, Param.isEmpty_unplacedAll,
        Ty.renderOutput_unplacedOption output]

/-- Spans and tags of a type are not written. -/
@[simp] theorem Ty.render_unplaced (t : Ty) : t.unplaced.render = t.render := by
  match t with
  | .implTrait bounds site =>
      simp only [Ty.unplaced, Ty.render, TypeBound.renderAll_unplacedAll bounds]
  | .traitObject bounds hasDyn site =>
      simp only [Ty.unplaced, Ty.render, TypeBound.renderAll_unplacedAll bounds]
  | .operand t => simp only [Ty.unplaced, Ty.render, OperandTy.render_unplaced t]

@[simp] theorem Ty.renderAll_unplacedAll (ts : List Ty) :
    Ty.renderAll (Ty.unplacedAll ts) = Ty.renderAll ts := by
  match ts with
  | [] => rfl
  | t :: ts =>
      simp only [Ty.unplacedAll, Ty.renderAll, Ty.render_unplaced t, Ty.renderAll_unplacedAll ts]

@[simp] theorem Ty.renderOutput_unplacedOption (t : Option Ty) :
    Ty.renderOutput (Ty.unplacedOption t) = Ty.renderOutput t := by
  match t with
  | none => rfl
  | some t => simp only [Ty.unplacedOption, Ty.renderOutput, Ty.render_unplaced t]

end

@[simp] theorem QualifiedExprPath.render_unplaced (p : QualifiedExprPath) :
    p.unplaced.render = p.render := by
  simp [QualifiedExprPath.unplaced, QualifiedExprPath.render]

@[simp] theorem RangeBound.render_unplaced (b : RangeBound) : b.unplaced.render = b.render := by
  cases b <;> simp [RangeBound.unplaced, RangeBound.render]

@[simp] theorem Pattern.length_unplacedAll (ps : List Pattern) :
    (Pattern.unplacedAll ps).length = ps.length := by
  induction ps with
  | nil => rfl
  | cons p ps ih => rw [Pattern.unplacedAll, List.length_cons, List.length_cons, ih]

@[simp] theorem Field.isStripped_unplaced (f : Field) :
    f.unplaced.isStripped = f.isStripped := by
  cases f with
  | indexed i p as s => cases p <;> rfl
  | named x p as s => cases p <;> rfl
  | shorthand x r m as s => rfl

@[simp] theorem Elements.isBare_unplaced (e : Elements) : e.unplaced.isBare = e.isBare := by
  obtain ⟨fields, hasRest, restAttrs⟩ := e
  have hlive : ((Field.unplacedAll fields).filter fun f => !f.isStripped).isEmpty =
      (fields.filter fun f => !f.isStripped).isEmpty := by
    induction fields with
    | nil => rfl
    | cons f fs ih => cases h : f.isStripped <;> simp [Field.unplacedAll, h, ih]
  rw [Elements.unplaced, isBare, isBare, live, live, hlive]

mutual

/-- Spans and tags of a pattern are not written. -/
@[simp] theorem Pattern.render_unplaced (p : Pattern) : p.unplaced.render = p.render := by
  match p with
  | .literal v m s => rfl
  | .ident name isRef isMut bind s =>
      simp only [Pattern.unplaced, Pattern.render, Pattern.renderBind_unplacedOption bind]
  | .wildcard s => rfl
  | .range lower upper ellipsis s =>
      simp only [Pattern.unplaced, Pattern.render, RangeBound.render_unplaced]
  | .reference inner twoAmps isMut s =>
      simp only [Pattern.unplaced, Pattern.render, Pattern.render_unplaced inner]
  | .struct path elems =>
      simp only [Pattern.unplaced, Pattern.render, ExprPath.render_unplaced,
        Elements.isBare_unplaced, Elements.render_unplaced elems]
  | .tupleStruct path items =>
      simp only [Pattern.unplaced, Pattern.render, ExprPath.render_unplaced,
        Items.renderOption_unplacedOption .tupleStruct items]
  | .tuple items s =>
      simp only [Pattern.unplaced, Pattern.render, Items.renderOption_unplacedOption .tuple items]
  | .grouped inner s => simp only [Pattern.unplaced, Pattern.render, Pattern.render_unplaced inner]
  | .slice items s =>
      simp only [Pattern.unplaced, Pattern.render, Pattern.renderAll_unplacedAll items]

@[simp] theorem Pattern.renderAll_unplacedAll (ps : List Pattern) :
    Pattern.renderAll (Pattern.unplacedAll ps) = Pattern.renderAll ps := by
  match ps with
  | [] => rfl
  | p :: ps =>
      simp only [Pattern.unplacedAll, Pattern.renderAll, Pattern.render_unplaced p,
        Pattern.renderAll_unplacedAll ps]

@[simp] theorem Pattern.renderBind_unplacedOption (p : Option Pattern) :
    Pattern.renderBind (Pattern.unplacedOption p) = Pattern.renderBind p := by
  match p with
  | none => rfl
  | some p => simp only [Pattern.unplacedOption, Pattern.renderBind, Pattern.render_unplaced p]

@[simp] theorem Elements.render_unplaced (e : Elements) : e.unplaced.render = e.render := by
  match e with
  | ⟨fields, hasRest, restAttrs⟩ =>
      simp only [Elements.unplaced, Elements.render, Field.renderLive_unplacedAll fields,
        Attribute.renderOuter_map_unplaced]

@[simp] theorem Field.render_unplaced (f : Field) : f.unplaced.render = f.render := by
  match f with
  | .indexed i none as s =>
      simp only [Field.unplaced, Pattern.unplacedOption, Field.render,
        Attribute.renderOuter_map_unplaced]
  | .indexed i (some p) as s =>
      simp only [Field.unplaced, Pattern.unplacedOption, Field.render,
        Attribute.renderOuter_map_unplaced, Pattern.render_unplaced p]
  | .named x none as s =>
      simp only [Field.unplaced, Pattern.unplacedOption, Field.render,
        Attribute.renderOuter_map_unplaced]
  | .named x (some p) as s =>
      simp only [Field.unplaced, Pattern.unplacedOption, Field.render,
        Attribute.renderOuter_map_unplaced, Pattern.render_unplaced p]
  | .shorthand x r m as s =>
      simp only [Field.unplaced, Field.render, Attribute.renderOuter_map_unplaced]

@[simp] theorem Field.renderLive_unplacedAll (fs : List Field) :
    Field.renderLive (Field.unplacedAll fs) = Field.renderLive fs := by
  match fs with
  | [] => rfl
  | f :: fs =>
      simp only [Field.unplacedAll, Field.renderLive, Field.isStripped_unplaced,
        Field.render_unplaced f, Field.renderLive_unplacedAll fs]

@[simp] theorem Items.render_unplaced (style : ItemsStyle) (items : Items) :
    items.unplaced.render style = items.render style := by
  match items with
  | .flat patterns s =>
      simp only [Items.unplaced, Items.render, Pattern.renderAll_unplacedAll patterns,
        Pattern.length_unplacedAll]
  | .ranged lower upper s =>
      simp only [Items.unplaced, Items.render, Pattern.renderAll_unplacedAll lower,
        Pattern.renderAll_unplacedAll upper]

@[simp] theorem Items.renderOption_unplacedOption (style : ItemsStyle) (items : Option Items) :
    Items.renderOption style (Items.unplacedOption items) = Items.renderOption style items := by
  match items with
  | none => rfl
  | some items =>
      simp only [Items.unplacedOption, Items.renderOption, Items.render_unplaced style items]

end

end SurfaceTree
