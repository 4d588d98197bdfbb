/-
Positions inside a pattern, and the replacement of what stands there.

Main definitions:

* `Step` — a way from a pattern down to one of its immediate sub-patterns;
* `Pattern.child?`, `Pattern.setChild` — reading and replacing one sub-pattern;
* `Pattern.get?`, `Pattern.modify?` — the same along a list of steps;
* `Pattern.modifyElements?` — a change to what stands between the braces of a struct pattern.

Main results:

* `Pattern.child?_setChild`, `Pattern.child?_setChild_of_ne` — a sub-pattern that has been replaced
  reads back, and so do all others;
* `Pattern.get?_modify?` — after a change the position holds the changed pattern.
-/

import SurfaceTree.Pattern.Stripped

set_option relaxedAutoImplicit false
set_option autoImplicit false

namespace SurfaceTree

/-- A way from a pattern down to one of its immediate sub-patterns. -/
inductive Step where
  /-- The pattern after `@`. -/
  | bind
  /-- The pattern behind a reference mark or in parentheses. -/
  | inner
  /-- The pattern of a field, by the position of the field. -/
  | field (i : Nat)
  /-- An item of a slice, or of a list of items without a rest marker. -/
  | item (i : Nat)
  /-- An item before the rest marker. -/
  | lower (i : Nat)
  /-- An item after the rest marker. -/
  | upper (i : Nat)
deriving DecidableEq

/-- The field with another pattern.  The short form has no place for one. -/
def Field.withPattern (p : Pattern) : Field → Field
  | .indexed i _ as s => .indexed i (some p) as s
  | .named x _ as s => .named x (some p) as s
  | .shorthand x r m as s => .shorthand x r m as s

namespace Items

/-- An item of a list. -/
def child? : Items → Step → Option Pattern
  | .flat ps _, .item i => ps[i]?
  | .ranged ls _ _, .lower i => ls[i]?
  | .ranged _ us _, .upper i => us[i]?
  | _, _ => none

/-- The list with another item at a position. -/
def setChild : Items → Step → Pattern → Items
  | .flat ps s, .item i, p => .flat (ps.set i p) s
  | .ranged ls us s, .lower i, p => .ranged (ls.set i p) us s
  | .ranged ls us s, .upper i, p => .ranged ls (us.set i p) s
  | items, _, _ => items

end Items

namespace Pattern

/-- The sub-pattern that a step leads to. -/
def child? : Pattern → Step → Option Pattern
  | .ident _ _ _ bind _, .bind => bind
  | .reference p _ _ _, .inner => some p
  | .grouped p _, .inner => some p
  | .struct _ e, .field i => e.fields[i]?.bind Field.pattern?
  | .slice ps _, .item i => ps[i]?
  | .tupleStruct _ (some items), s => items.child? s
  | .tuple (some items) _, s => items.child? s
  | _, _ => none

/-- The pattern with another sub-pattern where a step leads to, or unchanged if it leads nowhere. -/
def setChild : Pattern → Step → Pattern → Pattern
  | .ident x r m _ s, .bind, p => .ident x r m (some p) s
  | .reference _ a m s, .inner, p => .reference p a m s
  | .grouped _ s, .inner, p => .grouped p s
  | .struct path e, .field i, p =>
      .struct path { e with fields := e.fields.modify i (Field.withPattern p) }
  | .slice ps s, .item i, p => .slice (ps.set i p) s
  | .tupleStruct path (some items), step, p => .tupleStruct path (some (items.setChild step p))
  | .tuple (some items) s, step, p => .tuple (some (items.setChild step p)) s
  | q, _, _ => q

/-- The pattern at the end of a list of steps. -/
def get? : Pattern → List Step → Option Pattern
  | p, [] => some p
  | p, s :: steps => (p.child? s).bind (·.get? steps)

/-- The pattern with a change made at the end of a list of steps, if the steps lead somewhere and
the change can be made there. -/
def modify? (f : Pattern → Option Pattern) : Pattern → List Step → Option Pattern
  | p, [] => f p
  | p, s :: steps => do
      let child ← p.child? s
      let child ← child.modify? f steps
      pure (p.setChild s child)

/-- A change to what stands between the braces, made to a struct pattern only. -/
def modifyElements? (f : Elements → Option Elements) : Pattern → Option Pattern
  | .struct path e => (f e).map (.struct path)
  | _ => none

end Pattern

namespace Elements

/-- The fields with one more after them. -/
def pushField (e : Elements) (f : Field) : Elements := { e with fields := e.fields ++ [f] }

/-- The fields without the last one. -/
def popField (e : Elements) : Elements := { e with fields := e.fields.dropLast }

/-- One more attribute on the field at a position. -/
def pushAttr (e : Elements) (i : Nat) (a : Attribute) : Elements :=
  { e with fields := e.fields.modify i fun f => f.withAttrs (f.attrs ++ [a]) }

/-- One more attribute on the rest marker, whether it is present or not. -/
def pushRestAttr (e : Elements) (a : Attribute) : Elements :=
  { e with restAttrs := e.restAttrs ++ [a] }

/-- A change to the field at a position, if there is one. -/
def atField? (e : Elements) (i : Nat) (f : Elements → Elements) : Option Elements :=
  if i < e.fields.length then some (f e) else none

end Elements

/-! ### Reading back -/

theorem Items.child?_setChild {items : Items} {s : Step} {p q : Pattern}
    (h : items.child? s = some q) : (items.setChild s p).child? s = some p := by
  cases items <;> cases s <;> simp_all [Items.child?, Items.setChild]
  all_goals
    obtain ⟨hi, -⟩ := List.getElem?_eq_some_iff.1 h
    simp [hi]

theorem Items.child?_setChild_of_ne {s t : Step} (h : s ≠ t) (items : Items) (p : Pattern) :
    (items.setChild s p).child? t = items.child? t := by
  cases items <;> cases s <;> cases t <;> simp_all [Items.child?, Items.setChild]

theorem Field.pattern?_withPattern {f : Field} {p q : Pattern} (h : f.pattern? = some q) :
    (f.withPattern p).pattern? = some p := by
  cases f <;> simp_all [Field.pattern?, Field.withPattern]

namespace Pattern

/-- A sub-pattern that has been replaced reads back. -/
theorem child?_setChild {p q child : Pattern} {s : Step} (h : p.child? s = some q) :
    (p.setChild s child).child? s = some child := by
  cases p with
  | struct path e =>
      cases s with
      | field i =>
          simp only [child?, setChild, Option.bind_eq_some_iff] at h ⊢
          obtain ⟨f, hf, hq⟩ := h
          exact ⟨f.withPattern child, by simp [hf], Field.pattern?_withPattern hq⟩
      | _ => simp [child?] at h
  | tupleStruct path items =>
      cases items with
      | none => simp [child?] at h
      | some items => exact Items.child?_setChild (s := s) h
  | tuple items sp =>
      cases items with
      | none => simp [child?] at h
      | some items => exact Items.child?_setChild (s := s) h
  | slice ps sp =>
      cases s <;> simp_all [child?, setChild]
      obtain ⟨hi, -⟩ := List.getElem?_eq_some_iff.1 h
      simp [hi]
  | _ => cases s <;> simp_all [child?, setChild]

/-- Where no sub-pattern has been replaced, there is the same one as before. -/
theorem child?_setChild_of_ne {s t : Step} (h : s ≠ t) (p child : Pattern) :
    (p.setChild s child).child? t = p.child? t := by
  cases p with
  | struct path e =>
      cases s with
      | field i =>
          cases t with
          | field j =>
              have hij : i ≠ j := fun hij => h (congrArg Step.field hij)
              simp [child?, setChild, hij]
          | _ => rfl
      | _ => rfl
  | tupleStruct path items =>
      cases items with
      | none => rfl
      | some items => exact Items.child?_setChild_of_ne h items child
  | tuple items sp =>
      cases items with
      | none => rfl
      | some items => exact Items.child?_setChild_of_ne h items child
  | slice ps sp => cases s <;> cases t <;> simp_all [child?, setChild]
  | _ => cases s <;> cases t <;> simp_all [child?, setChild]

/-- After a change the position holds the changed pattern. -/
theorem get?_modify? {f : Pattern → Option Pattern} {p q : Pattern} {steps : List Step}
    (h : p.modify? f steps = some q) : q.get? steps = (p.get? steps).bind f := by
  induction steps generalizing p q with
  | nil => simpa [get?, modify?] using h.symm
  | cons s steps ih =>
      simp only [modify?, Option.bind_eq_bind, Option.bind_eq_some_iff, Option.pure_def,
        Option.some.injEq] at h
      obtain ⟨child, hc, child', hm, rfl⟩ := h
      simp [get?, hc, child?_setChild hc, ih hm]

end Pattern

end SurfaceTree
