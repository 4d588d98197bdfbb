/-
Equality of types and of their parts is decidable.

Every comparison goes through two trees side by side, with a companion for each kind of list and
of optional part.  Spans and tags take part in it: two nodes that print alike and stand at two
places differ.

Main results:

* `Ty.same_iff` and its companions — the comparison holds exactly of equal trees;
* an instance of `DecidableEq` for every type of the family.
-/

import SurfaceTree.Ty.Basic

set_option relaxedAutoImplicit false
set_option autoImplicit false

namespace SurfaceTree

/-! ### The comparison -/

mutual

/-- Comparison of two lists of arguments. -/
def GenericArgs.same : GenericArgs → GenericArgs → Bool
  | ⟨ls, ts, bs⟩, ⟨ls', ts', bs'⟩ =>
      decide (ls = ls') && Ty.sameAll ts ts' && Binding.sameAll bs bs'

/-- Comparison of two associated types. -/
def Binding.same : Binding → Binding → Bool
  | ⟨x, t, s⟩, ⟨x', t', s'⟩ => decide (x = x') && t.same t' && decide (s = s')

/-- Comparison of two lists of associated types. -/
def Binding.sameAll : List Binding → List Binding → Bool
  | [], [] => true
  | b :: bs, b' :: bs' => b.same b' && Binding.sameAll bs bs'
  | _, _ => false

/-- Comparison of two segments of paths in expressions. -/
def ExprSegment.same : ExprSegment → ExprSegment → Bool
  | ⟨x, a, s⟩, ⟨x', a', s'⟩ => decide (x = x') && a.same a' && decide (s = s')

/-- Comparison of two lists of such segments. -/
def ExprSegment.sameAll : List ExprSegment → List ExprSegment → Bool
  | [], [] => true
  | x :: xs, x' :: xs' => x.same x' && ExprSegment.sameAll xs xs'
  | _, _ => false

/-- Comparison of two paths in expressions. -/
def ExprPath.same : ExprPath → ExprPath → Bool
  | ⟨xs, r, s⟩, ⟨xs', r', s'⟩ => ExprSegment.sameAll xs xs' && r == r' && decide (s = s')

/-- Comparison of two starts of qualified paths. -/
def QualifiedSelf.same : QualifiedSelf → QualifiedSelf → Bool
  | ⟨t, p, s⟩, ⟨t', p', s'⟩ => t.same t' && TypePath.sameOption p p' && decide (s = s')

/-- Comparison of two segments of paths in types. -/
def TypeSegment.same : TypeSegment → TypeSegment → Bool
  | .plain x s, .plain x' s' => decide (x = x') && decide (s = s')
  | .generic x a s, .generic x' a' s' => decide (x = x') && a.same a' && decide (s = s')
  | .function x i o s, .function x' i' o' s' =>
      decide (x = x') && Ty.sameAll i i' && Ty.sameOption o o' && decide (s = s')
  | _, _ => false

/-- Comparison of two lists of such segments. -/
def TypeSegment.sameAll : List TypeSegment → List TypeSegment → Bool
  | [], [] => true
  | x :: xs, x' :: xs' => x.same x' && TypeSegment.sameAll xs xs'
  | _, _ => false

/-- Comparison of two paths in types. -/
def TypePath.same : TypePath → TypePath → Bool
  | ⟨xs, r, s⟩, ⟨xs', r', s'⟩ => TypeSegment.sameAll xs xs' && r == r' && decide (s = s')

/-- Comparison of two optional paths in types. -/
def TypePath.sameOption : Option TypePath → Option TypePath → Bool
  | none, none => true
  | some p, some p' => p.same p'
  | _, _ => false

/-- Comparison of two qualified paths in types. -/
def QualifiedTypePath.same : QualifiedTypePath → QualifiedTypePath → Bool
  | ⟨q, xs, s⟩, ⟨q', xs', s'⟩ => q.same q' && TypeSegment.sameAll xs xs' && decide (s = s')

/-- Comparison of two traits with what stands before them. -/
def TraitBound.same : TraitBound → TraitBound → Bool
  | ⟨p, i, m, b, s⟩, ⟨p', i', m', b', s'⟩ =>
      p.same p' && i == i' && m == m' && decide (b = b') && decide (s = s')

/-- Comparison of two entries of lists of bounds. -/
def TypeBound.same : TypeBound → TypeBound → Bool
  | .trait b, .trait b' => b.same b'
  | .lifetime l, .lifetime l' => decide (l = l')
  | _, _ => false

/-- Comparison of two lists of bounds. -/
def TypeBound.sameAll : List TypeBound → List TypeBound → Bool
  | [], [] => true
  | b :: bs, b' :: bs' => b.same b' && TypeBound.sameAll bs bs'
  | _, _ => false

/-- Comparison of two lengths of arrays. -/
def ArraySize.same : ArraySize → ArraySize → Bool
  | .literal v, .literal v' => decide (v = v')
  | .path p, .path p' => p.same p'
  | .expr i, .expr i' => decide (i = i')
  | _, _ => false

/-- Comparison of two parameters. -/
def Param.same : Param → Param → Bool
  | ⟨x, k, t, s⟩, ⟨x', k', t', s'⟩ =>
      decide (x = x') && decide (k = k') && Ty.sameOption t t' && decide (s = s')

/-- Comparison of two lists of parameters. -/
def Param.sameAll : List Param → List Param → Bool
  | [], [] => true
  | p :: ps, p' :: ps' => p.same p' && Param.sameAll ps ps'
  | _, _ => false

/-- Comparison of two operand types. -/
def OperandTy.same : OperandTy → OperandTy → Bool
  | .paren t s, .paren t' s' => t.same t' && decide (s = s')
  | .implOne b s, .implOne b' s' => b.same b' && decide (s = s')
  | .objectOne b d s, .objectOne b' d' s' => b.same b' && d == d' && decide (s = s')
  | .path p, .path p' => p.same p'
  | .qualified p, .qualified p' => p.same p'
  | .tuple ts s, .tuple ts' s' => Ty.sameAll ts ts' && decide (s = s')
  | .never s, .never s' => decide (s = s')
  | .pointer m t s, .pointer m' t' s' => m == m' && t.same t' && decide (s = s')
  | .reference l m t s, .reference l' m' t' s' =>
      decide (l = l') && m == m' && t.same t' && decide (s = s')
  | .array t n s, .array t' n' s' => t.same t' && n.same n' && decide (s = s')
  | .slice t s, .slice t' s' => t.same t' && decide (s = s')
  | .inferred s, .inferred s' => decide (s = s')
  | .function b q ps v o s, .function b' q' ps' v' o' s' =>
      decide (b = b') && decide (q = q') && Param.sameAll ps ps' && v == v' &&
        Ty.sameOption o o' && decide (s = s')
  | _, _ => false

/-- Comparison of two types. -/
def Ty.same : Ty → Ty → Bool
  | .implTrait bs s, .implTrait bs' s' => TypeBound.sameAll bs bs' && decide (s = s')
  | .traitObject bs d s, .traitObject bs' d' s' =>
      TypeBound.sameAll bs bs' && d == d' && decide (s = s')
  | .operand t, .operand t' => t.same t'
  | _, _ => false

/-- Comparison of two lists of types. -/
def Ty.sameAll : List Ty → List Ty → Bool
  | [], [] => true
  | t :: ts, t' :: ts' => t.same t' && Ty.sameAll ts ts'
  | _, _ => false

/-- Comparison of two optional types. -/
def Ty.sameOption : Option Ty → Option Ty → Bool
  | none, none => true
  | some t, some t' => t.same t'
  | _, _ => false

end

/-! ### The comparison decides equality -/

mutual

theorem GenericArgs.same_iff (a a' : GenericArgs) : a.same a' = true ↔ a = a' := by
  match a, a' with
  | ⟨_, ts, bs⟩, ⟨_, _, _⟩ =>
      simp [GenericArgs.same, Ty.sameAll_iff ts, Binding.sameAll_iff bs, and_assoc]

theorem Binding.same_iff (b b' : Binding) : b.same b' = true ↔ b = b' := by
  match b, b' with
  | ⟨_, t, _⟩, ⟨_, _, _⟩ => simp [Binding.same, Ty.same_iff t, and_assoc]

theorem Binding.sameAll_iff (bs bs' : List Binding) :
    Binding.sameAll bs bs' = true ↔ bs = bs' := by
  match bs with
  | [] => cases bs' <;> simp [Binding.sameAll]
  | b :: bs => cases bs' <;> simp [Binding.sameAll, Binding.same_iff b, Binding.sameAll_iff bs]

theorem ExprSegment.same_iff (x x' : ExprSegment) : x.same x' = true ↔ x = x' := by
  match x, x' with
  | ⟨_, a, _⟩, ⟨_, _, _⟩ => simp [ExprSegment.same, GenericArgs.same_iff a, and_assoc]

theorem ExprSegment.sameAll_iff (xs xs' : List ExprSegment) :
    ExprSegment.sameAll xs xs' = true ↔ xs = xs' := by
  match xs with
  | [] => cases xs' <;> simp [ExprSegment.sameAll]
  | x :: xs =>
      cases xs' <;> simp [ExprSegment.sameAll, ExprSegment.same_iff x, ExprSegment.sameAll_iff xs]

theorem ExprPath.same_iff (p p' : ExprPath) : p.same p' = true ↔ p = p' := by
  match p, p' with
  | ⟨xs, _, _⟩, ⟨_, _, _⟩ => simp [ExprPath.same, ExprSegment.sameAll_iff xs, and_assoc]

theorem QualifiedSelf.same_iff (q q' : QualifiedSelf) : q.same q' = true ↔ q = q' := by
  match q, q' with
  | ⟨t, p, _⟩, ⟨_, _, _⟩ =>
      simp [QualifiedSelf.same, Ty.same_iff t, TypePath.sameOption_iff p, and_assoc]

theorem TypeSegment.same_iff (x x' : TypeSegment) : x.same x' = true ↔ x = x' := by
  match x with
  | .plain _ _ => cases x' <;> simp [TypeSegment.same]
  | .generic _ a _ => cases x' <;> simp [TypeSegment.same, GenericArgs.same_iff a, and_assoc]
  | .function _ i o _ =>
      cases x' <;>
        simp [TypeSegment.same, Ty.sameAll_iff i, Ty.sameOption_iff o, and_assoc]

theorem TypeSegment.sameAll_iff (xs xs' : List TypeSegment) :
    TypeSegment.sameAll xs xs' = true ↔ xs = xs' := by
  match xs with
  | [] => cases xs' <;> simp [TypeSegment.sameAll]
  | x :: xs =>
      cases xs' <;> simp [TypeSegment.sameAll, TypeSegment.same_iff x, TypeSegment.sameAll_iff xs]

theorem TypePath.same_iff (p p' : TypePath) : p.same p' = true ↔ p = p' := by
  match p, p' with
  | ⟨xs, _, _⟩, ⟨_, _, _⟩ => simp [TypePath.same, TypeSegment.sameAll_iff xs, and_assoc]

theorem TypePath.sameOption_iff (p p' : Option TypePath) :
    TypePath.sameOption p p' = true ↔ p = p' := by
  match p with
  | none => cases p' <;> simp [TypePath.sameOption]
  | some p => cases p' <;> simp [TypePath.sameOption, TypePath.same_iff p]

theorem QualifiedTypePath.same_iff (p p' : QualifiedTypePath) : p.same p' = true ↔ p = p' := by
  match p, p' with
  | ⟨q, xs, _⟩, ⟨_, _, _⟩ =>
      simp [QualifiedTypePath.same, QualifiedSelf.same_iff q, TypeSegment.sameAll_iff xs,
        and_assoc]

theorem TraitBound.same_iff (b b' : TraitBound) : b.same b' = true ↔ b = b' := by
  match b, b' with
  | ⟨p, _, _, _, _⟩, ⟨_, _, _, _, _⟩ =>
      simp [TraitBound.same, TypePath.same_iff p, and_assoc]

theorem TypeBound.same_iff (b b' : TypeBound) : b.same b' = true ↔ b = b' := by
  match b with
  | .trait t => cases b' <;> simp [TypeBound.same, TraitBound.same_iff t]
  | .lifetime _ => cases b' <;> simp [TypeBound.same]

theorem TypeBound.sameAll_iff (bs bs' : List TypeBound) :
    TypeBound.sameAll bs bs' = true ↔ bs = bs' := by
  match bs with
  | [] => cases bs' <;> simp [TypeBound.sameAll]
  | b :: bs =>
      cases bs' <;> simp [TypeBound.sameAll, TypeBound.same_iff b, TypeBound.sameAll_iff bs]

theorem ArraySize.same_iff (n n' : ArraySize) : n.same n' = true ↔ n = n' := by
  match n with
  | .literal _ => cases n' <;> simp [ArraySize.same]
  | .path p => cases n' <;> simp [ArraySize.same, ExprPath.same_iff p]
  | .expr _ => cases n' <;> simp [ArraySize.same]

theorem Param.same_iff (p p' : Param) : p.same p' = true ↔ p = p' := by
  match p, p' with
  | ⟨_, _, t, _⟩, ⟨_, _, _, _⟩ => simp [Param.same, Ty.sameOption_iff t, and_assoc]

theorem Param.sameAll_iff (ps ps' : List Param) : Param.sameAll ps ps' = true ↔ ps = ps' := by
  match ps with
  | [] => cases ps' <;> simp [Param.sameAll]
  | p :: ps => cases ps' <;> simp [Param.sameAll, Param.same_iff p, Param.sameAll_iff ps]

theorem OperandTy.same_iff (t t' : OperandTy) : t.same t' = true ↔ t = t' := by
  match t with
  | .paren t _ => cases t' <;> simp [OperandTy.same, Ty.same_iff t]
  | .implOne b _ => cases t' <;> simp [OperandTy.same, TraitBound.same_iff b]
  | .objectOne b _ _ => cases t' <;> simp [OperandTy.same, TraitBound.same_iff b, and_assoc]
  | .path p => cases t' <;> simp [OperandTy.same, TypePath.same_iff p]
  | .qualified p => cases t' <;> simp [OperandTy.same, QualifiedTypePath.same_iff p]
  | .tuple ts _ => cases t' <;> simp [OperandTy.same, Ty.sameAll_iff ts]
  | .never _ => cases t' <;> simp [OperandTy.same]
  | .pointer _ t _ => cases t' <;> simp [OperandTy.same, OperandTy.same_iff t, and_assoc]
  | .reference _ _ t _ => cases t' <;> simp [OperandTy.same, OperandTy.same_iff t, and_assoc]
  | .array t n _ =>
      cases t' <;> simp [OperandTy.same, Ty.same_iff t, ArraySize.same_iff n, and_assoc]
  | .slice t _ => cases t' <;> simp [OperandTy.same, Ty.same_iff t]
  | .inferred _ => cases t' <;> simp [OperandTy.same]
  | .function _ _ ps _ o _ =>
      cases t' <;>
        simp [OperandTy.same, Param.sameAll_iff ps, Ty.sameOption_iff o, and_assoc]

theorem Ty.same_iff (t t' : Ty) : t.same t' = true ↔ t = t' := by
  match t with
  | .implTrait bs _ => cases t' <;> simp [Ty.same, TypeBound.sameAll_iff bs]
  | .traitObject bs _ _ => cases t' <;> simp [Ty.same, TypeBound.sameAll_iff bs, and_assoc]
  | .operand t => cases t' <;> simp [Ty.same, OperandTy.same_iff t]

theorem Ty.sameAll_iff (ts ts' : List Ty) : Ty.sameAll ts ts' = true ↔ ts = ts' := by
  match ts with
  | [] => cases ts' <;> simp [Ty.sameAll]
  | t :: ts => cases ts' <;> simp [Ty.sameAll, Ty.same_iff t, Ty.sameAll_iff ts]

theorem Ty.sameOption_iff (t t' : Option Ty) : Ty.sameOption t t' = true ↔ t = t' := by
  match t with
  | none => cases t' <;> simp [Ty.sameOption]
  | some t => cases t' <;> simp [Ty.sameOption, Ty.same_iff t]

end

/-! ### Instances -/

instance : DecidableEq GenericArgs := fun a b => decidable_of_iff _ (GenericArgs.same_iff a b)

instance : DecidableEq Binding := fun a b => decidable_of_iff _ (Binding.same_iff a b)

instance : DecidableEq ExprSegment := fun a b => decidable_of_iff _ (ExprSegment.same_iff a b)

instance : DecidableEq ExprPath := fun a b => decidable_of_iff _ (ExprPath.same_iff a b)

instance : DecidableEq QualifiedSelf := fun a b => decidable_of_iff _ (QualifiedSelf.same_iff a b)

instance : DecidableEq TypeSegment := fun a b => decidable_of_iff _ (TypeSegment.same_iff a b)

instance : DecidableEq TypePath := fun a b => decidable_of_iff _ (TypePath.same_iff a b)

instance : DecidableEq QualifiedTypePath :=
  fun a b => decidable_of_iff _ (QualifiedTypePath.same_iff a b)

instance : DecidableEq TraitBound := fun a b => decidable_of_iff _ (TraitBound.same_iff a b)

instance : DecidableEq TypeBound := fun a b => decidable_of_iff _ (TypeBound.same_iff a b)

instance : DecidableEq ArraySize := fun a b => decidable_of_iff _ (ArraySize.same_iff a b)

instance : DecidableEq Param := fun a b => decidable_of_iff _ (Param.same_iff a b)

instance : DecidableEq OperandTy := fun a b => decidable_of_iff _ (OperandTy.same_iff a b)

instance : DecidableEq Ty := fun a b => decidable_of_iff _ (Ty.same_iff a b)

deriving instance DecidableEq for QualifiedExprPath

end SurfaceTree
