/-
Equality of patterns and of their parts is decidable.

Main results:

* `Pattern.same_iff` and its companions — the comparison holds exactly of equal trees;
* an instance of `DecidableEq` for every type of the family.
-/

import SurfaceTree.Pattern.Basic
import SurfaceTree.Ty.Equality

set_option relaxedAutoImplicit false
set_option autoImplicit false

namespace SurfaceTree

deriving instance DecidableEq for RangeBound

/-! ### The comparison -/

mutual

/-- Comparison of two patterns. -/
def Pattern.same : Pattern → Pattern → Bool
  | .literal v m s, .literal v' m' s' => decide (v = v') && m == m' && decide (s = s')
  | .ident x r m b s, .ident x' r' m' b' s' =>
      decide (x = x') && r == r' && m == m' && Pattern.sameOption b b' && decide (s = s')
  | .wildcard s, .wildcard s' => decide (s = s')
  | .range l u e s, .range l' u' e' s' =>
      decide (l = l') && decide (u = u') && e == e' && decide (s = s')
  | .reference p a m s, .reference p' a' m' s' =>
      p.same p' && a == a' && m == m' && decide (s = s')
  | .struct p e, .struct p' e' => decide (p = p') && e.same e'
  | .tupleStruct p i, .tupleStruct p' i' => decide (p = p') && Items.sameOption i i'
  | .tuple i s, .tuple i' s' => Items.sameOption i i' && decide (s = s')
  | .grouped p s, .grouped p' s' => p.same p' && decide (s = s')
  | .slice ps s, .slice ps' s' => Pattern.sameAll ps ps' && decide (s = s')
  | _, _ => false

/-- Comparison of two lists of patterns. -/
def Pattern.sameAll : List Pattern → List Pattern → Bool
  | [], [] => true
  | p :: ps, p' :: ps' => p.same p' && Pattern.sameAll ps ps'
  | _, _ => false

/-- Comparison of two optional patterns. -/
def Pattern.sameOption : Option Pattern → Option Pattern → Bool
  | none, none => true
  | some p, some p' => p.same p'
  | _, _ => false

/-- Comparison of what stands between two pairs of braces. -/
def Elements.same : Elements → Elements → Bool
  | ⟨fs, r, as⟩, ⟨fs', r', as'⟩ => Field.sameAll fs fs' && r == r' && decide (as = as')

/-- Comparison of two fields. -/
def Field.same : Field → Field → Bool
  | .indexed i p as s, .indexed i' p' as' s' =>
      decide (i = i') && Pattern.sameOption p p' && decide (as = as') && decide (s = s')
  | .named x p as s, .named x' p' as' s' =>
      decide (x = x') && Pattern.sameOption p p' && decide (as = as') && decide (s = s')
  | .shorthand x r m as s, .shorthand x' r' m' as' s' =>
      decide (x = x') && r == r' && m == m' && decide (as = as') && decide (s = s')
  | _, _ => false

/-- Comparison of two lists of fields. -/
def Field.sameAll : List Field → List Field → Bool
  | [], [] => true
  | f :: fs, f' :: fs' => f.same f' && Field.sameAll fs fs'
  | _, _ => false

/-- Comparison of two lists of items. -/
def Items.same : Items → Items → Bool
  | .flat ps s, .flat ps' s' => Pattern.sameAll ps ps' && decide (s = s')
  | .ranged ls us s, .ranged ls' us' s' =>
      Pattern.sameAll ls ls' && Pattern.sameAll us us' && decide (s = s')
  | _, _ => false

/-- Comparison of two optional lists of items. -/
def Items.sameOption : Option Items → Option Items → Bool
  | none, none => true
  | some i, some i' => i.same i'
  | _, _ => false

end

/-! ### The comparison decides equality -/

mutual

theorem Pattern.same_iff (p p' : Pattern) : p.same p' = true ↔ p = p' := by
  match p with
  | .literal _ _ _ => cases p' <;> simp [Pattern.same, and_assoc]
  | .ident _ _ _ b _ => cases p' <;> simp [Pattern.same, Pattern.sameOption_iff b, and_assoc]
  | .wildcard _ => cases p' <;> simp [Pattern.same]
  | .range _ _ _ _ => cases p' <;> simp [Pattern.same, and_assoc]
  | .reference p _ _ _ => cases p' <;> simp [Pattern.same, Pattern.same_iff p, and_assoc]
  | .struct _ e => cases p' <;> simp [Pattern.same, Elements.same_iff e]
  | .tupleStruct _ i => cases p' <;> simp [Pattern.same, Items.sameOption_iff i]
  | .tuple i _ => cases p' <;> simp [Pattern.same, Items.sameOption_iff i]
  | .grouped p _ => cases p' <;> simp [Pattern.same, Pattern.same_iff p]
  | .slice ps _ => cases p' <;> simp [Pattern.same, Pattern.sameAll_iff ps]

theorem Pattern.sameAll_iff (ps ps' : List Pattern) :
    Pattern.sameAll ps ps' = true ↔ ps = ps' := by
  match ps with
  | [] => cases ps' <;> simp [Pattern.sameAll]
  | p :: ps => cases ps' <;> simp [Pattern.sameAll, Pattern.same_iff p, Pattern.sameAll_iff ps]

theorem Pattern.sameOption_iff (p p' : Option Pattern) :
    Pattern.sameOption p p' = true ↔ p = p' := by
  match p with
  | none => cases p' <;> simp [Pattern.sameOption]
  | some p => cases p' <;> simp [Pattern.sameOption, Pattern.same_iff p]

theorem Elements.same_iff (e e' : Elements) : e.same e' = true ↔ e = e' := by
  match e, e' with
  | ⟨fs, _, _⟩, ⟨_, _, _⟩ => simp [Elements.same, Field.sameAll_iff fs, and_assoc]

theorem Field.same_iff (f f' : Field) : f.same f' = true ↔ f = f' := by
  match f with
  | .indexed _ p _ _ => cases f' <;> simp [Field.same, Pattern.sameOption_iff p, and_assoc]
  | .named _ p _ _ => cases f' <;> simp [Field.same, Pattern.sameOption_iff p, and_assoc]
  | .shorthand _ _ _ _ _ => cases f' <;> simp [Field.same, and_assoc]

theorem Field.sameAll_iff (fs fs' : List Field) : Field.sameAll fs fs' = true ↔ fs = fs' := by
  match fs with
  | [] => cases fs' <;> simp [Field.sameAll]
  | f :: fs => cases fs' <;> simp [Field.sameAll, Field.same_iff f, Field.sameAll_iff fs]

theorem Items.same_iff (i i' : Items) : i.same i' = true ↔ i = i' := by
  match i with
  | .flat ps _ => cases i' <;> simp [Items.same, Pattern.sameAll_iff ps]
  | .ranged ls us _ =>
      cases i' <;> simp [Items.same, Pattern.sameAll_iff ls, Pattern.sameAll_iff us, and_assoc]

theorem Items.sameOption_iff (i i' : Option Items) : Items.sameOption i i' = true ↔ i = i' := by
  match i with
  | none => cases i' <;> simp [Items.sameOption]
  | some i => cases i' <;> simp [Items.sameOption, Items.same_iff i]

end

/-! ### Instances -/

instance : DecidableEq Pattern := fun a b => decidable_of_iff _ (Pattern.same_iff a b)

instance : DecidableEq Elements := fun a b => decidable_of_iff _ (Elements.same_iff a b)

instance : DecidableEq Field := fun a b => decidable_of_iff _ (Field.same_iff a b)

instance : DecidableEq Items := fun a b => decidable_of_iff _ (Items.same_iff a b)

end SurfaceTree
