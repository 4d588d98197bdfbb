/-
What is there at a place in a pattern, before and after a configuration.

A struct pattern is reached by steps, and between its braces attributes are carried by the fields
and by the rest marker.  A field that has been stripped is not there any more, and neither is a
rest marker that is absent.  Here a configuration is seen from one such place: the carrier stays
there exactly if no condition on it is false and every field on the way stays, and what else there
is in the tree does not matter.

Main definitions:

* `Carrier` — a field, by its position, or the rest marker;
* `Elements.liveAttrs?`, `Pattern.liveAttrs?` — the attributes of a carrier, if it is there;
* `Pattern.isLive` — a carrier is there;
* `Config.left?` — what a configuration leaves of the attributes of a carrier that stays;
* `Pattern.opens` — a step that a configuration leaves open.

Main results:

* `Elements.liveAttrs?_settle` — what stays between the braces of one pattern;
* `Pattern.liveAttrs?_settle_nil`, `Pattern.liveAttrs?_settle_cons` — **what stays at a place**, one
  step after another.
-/

import SurfaceTree.Proofs.Examined

set_option relaxedAutoImplicit false
set_option autoImplicit false

namespace SurfaceTree

open Config

/-! ### Carriers of attributes -/

/-- What carries attributes between the braces of a struct pattern. -/
inductive Carrier where
  /-- A field, by its position. -/
  | field (i : Nat)
  /-- The rest marker. -/
  | rest
deriving DecidableEq

namespace Elements

/-- A carrier is there: the field has not been stripped, the rest marker is present. -/
def isLive (e : Elements) : Carrier → Bool
  | .field i => e.fields[i]?.any fun f => !f.isStripped
  | .rest => e.hasRest

/-- The attributes of a carrier, whether it is there or has left them behind. -/
def attrs? (e : Elements) : Carrier → Option (List Attribute)
  | .field i => e.fields[i]?.map Field.attrs
  | .rest => some e.restAttrs

/-- The attributes of a carrier that is there. -/
def liveAttrs? (e : Elements) (c : Carrier) : Option (List Attribute) :=
  if e.isLive c then e.attrs? c else none

theorem liveAttrs?_field (e : Elements) (i : Nat) :
    e.liveAttrs? (.field i) =
      e.fields[i]?.bind fun f => if f.isStripped then none else some f.attrs := by
  cases h : e.fields[i]? with
  | none => simp [liveAttrs?, isLive, h]
  | some f => cases hs : f.isStripped <;> simp [liveAttrs?, isLive, attrs?, h, hs]

theorem isLive_iff {e : Elements} {c : Carrier} :
    e.isLive c = true ↔ ∃ as, e.liveAttrs? c = some as := by
  unfold liveAttrs?
  cases c with
  | field i => cases h : e.fields[i]? <;> simp [isLive, attrs?, h]
  | rest => cases h : e.hasRest <;> simp [isLive, attrs?, h]

theorem liveAttrs?_eq_some_iff {e : Elements} {c : Carrier} {as : List Attribute} :
    e.liveAttrs? c = some as ↔ e.isLive c = true ∧ e.attrs? c = some as := by
  unfold liveAttrs?
  cases e.isLive c <;> simp

end Elements

/-- What is left of the attributes of a carrier, if none of them states a false condition. -/
def Config.left? (o : Options) (as : List Attribute) : Option (List Attribute) :=
  if as.any (refutes o) then none else some (settled as)

theorem Field.isStripped_mapPattern (g : Pattern → Pattern) (f : Field) :
    (f.mapPattern g).isStripped = f.isStripped := by
  cases f <;> simp [mapPattern, isStripped]

theorem Elements.getElem?_fields_settle (o : Options) (g : Pattern → Pattern) (e : Elements)
    (i : Nat) :
    ((e.mapPatterns g).settle o).fields[i]? =
      e.fields[i]?.map fun f => (f.mapPattern g).settle o := by
  simp [Elements.mapPatterns, Function.comp_def]

/-- A carrier stays between the braces if it was there and no condition on it is false, and what
was done further down does not matter. -/
theorem Elements.liveAttrs?_settle (o : Options) (g : Pattern → Pattern) (e : Elements)
    (c : Carrier) :
    ((e.mapPatterns g).settle o).liveAttrs? c = (e.liveAttrs? c).bind (left? o) := by
  cases c with
  | field i =>
      rw [liveAttrs?_field, liveAttrs?_field, getElem?_fields_settle]
      cases e.fields[i]? with
      | none => rfl
      | some f =>
          simp only [Option.map_some, Option.bind_some, Field.settle_mapPattern]
          cases hs : f.isStripped with
          | true => simp [hs]
          | false =>
              cases hr : f.attrs.any (refutes o) with
              | true => simp [left?, hr]
              | false => simp [left?, hr, hs, Field.isStripped_mapPattern]
  | rest =>
      obtain ⟨fields, hasRest, restAttrs⟩ := e
      cases hasRest with
      | false => rfl
      | true =>
          cases hr : restAttrs.any (refutes o) <;>
            simp [liveAttrs?, isLive, attrs?, left?, Elements.settle, mapPatterns, stripRest, hr]

/-! ### Places in a pattern -/

/-- The attributes of the carrier at a place, if the steps lead to a struct pattern and the carrier
is there. -/
def Pattern.liveAttrs? (p : Pattern) (steps : List Step) (c : Carrier) : Option (List Attribute) :=
  ((p.get? steps).bind Pattern.elements?).bind (·.liveAttrs? c)

/-- The steps lead to a struct pattern, and the carrier is there. -/
def Pattern.isLive (p : Pattern) (steps : List Step) (c : Carrier) : Bool :=
  ((p.get? steps).bind Pattern.elements?).any (·.isLive c)

theorem Pattern.isLive_iff {p : Pattern} {steps : List Step} {c : Carrier} :
    p.isLive steps c = true ↔ ∃ as, p.liveAttrs? steps c = some as := by
  unfold isLive liveAttrs?
  cases (p.get? steps).bind Pattern.elements? with
  | none => simp
  | some e => exact Elements.isLive_iff

/-- The attributes of a carrier in a pattern are attributes in the pattern. -/
theorem Pattern.Occurs.attrs?_subset {path : ExprPath} {e : Elements} {p : Pattern}
    (h : Pattern.Occurs (.struct path e) p) {c : Carrier} {as : List Attribute}
    (has : e.attrs? c = some as) : as ⊆ p.attributes := by
  cases c with
  | field i =>
      obtain ⟨f, hf, rfl⟩ := Option.map_eq_some_iff.1 has
      exact h.attrs_subset (List.mem_of_getElem? hf)
  | rest =>
      obtain rfl : e.restAttrs = as := Option.some.inj has
      exact h.restAttrs_subset

theorem Pattern.liveAttrs?_subset {p : Pattern} {steps : List Step} {c : Carrier}
    {as : List Attribute} (h : p.liveAttrs? steps c = some as) : as ⊆ p.attributes := by
  obtain ⟨e, he, has⟩ := Option.bind_eq_some_iff.1 h
  obtain ⟨q, hq, he⟩ := Option.bind_eq_some_iff.1 he
  obtain ⟨path, rfl⟩ := Pattern.elements?_eq_some he
  have ho : Pattern.Occurs (.struct path e) p := Pattern.occurs_iff_get?.2 ⟨steps, hq⟩
  exact ho.attrs?_subset (Elements.liveAttrs?_eq_some_iff.1 has).2

theorem Pattern.liveAttrs?_cons (p : Pattern) (s : Step) (steps : List Step) (c : Carrier) :
    p.liveAttrs? (s :: steps) c = (p.child? s).bind (·.liveAttrs? steps c) := by
  rw [liveAttrs?, get?]
  cases p.child? s <;> rfl

/-- A step that a configuration leaves open: the way through a field is closed if the field goes. -/
def Pattern.opens (o : Options) (p : Pattern) : Step → Bool
  | .field i => ((p.liveAttrs? [] (.field i)).bind (left? o)).isSome
  | _ => true

theorem Items.child?_mapPatterns (g : Pattern → Pattern) (items : Items) (s : Step) :
    (items.mapPatterns g).child? s = (items.child? s).map g := by
  cases items <;> cases s <;> simp [mapPatterns, child?]

theorem Pattern.child?_mapChildren (g : Pattern → Pattern) (p : Pattern) (s : Step) :
    (p.mapChildren g).child? s = (p.child? s).map g := by
  cases p with
  | struct path e =>
      cases s with
      | field i =>
          simp only [mapChildren, child?, Elements.mapPatterns, List.getElem?_map]
          cases e.fields[i]? with
          | none => rfl
          | some f => simp
      | _ => rfl
  | tupleStruct path items =>
      cases items with
      | none => rfl
      | some items => exact Items.child?_mapPatterns g items s
  | tuple items sp =>
      cases items with
      | none => rfl
      | some items => exact Items.child?_mapPatterns g items s
  | slice ps sp => cases s <;> simp [mapChildren, child?]
  | _ => cases s <;> rfl

/-- The way through a field after a configuration. -/
theorem Field.pattern?_settle_mapPattern (o : Options) (g : Pattern → Pattern) (f : Field) :
    ((f.mapPattern g).settle o).pattern? =
      if !f.isStripped && !f.attrs.any (refutes o) then f.pattern?.map g else none := by
  rw [Field.settle_mapPattern]
  cases hs : f.isStripped with
  | true => simpa using Field.pattern?_of_isStripped hs
  | false => cases f.attrs.any (refutes o) <;> simp

/-- Only a struct pattern has fields to go through. -/
theorem Pattern.child?_field_eq_none {p : Pattern} (h : p.elements? = none) (i : Nat) :
    p.child? (.field i) = none := by
  cases p with
  | struct path e => cases h
  | tupleStruct path items =>
      cases items with
      | none => rfl
      | some items => cases items <;> rfl
  | tuple items sp =>
      cases items with
      | none => rfl
      | some items => cases items <;> rfl
  | _ => rfl

/-- **One step after a configuration** leads to what the configuration leaves of the sub-pattern, if
the step is left open. -/
theorem Pattern.child?_settle (o : Options) (p : Pattern) (s : Step) :
    (p.settle o).child? s = if p.opens o s then (p.child? s).map (Pattern.settle o) else none := by
  cases hp : p.elements? with
  | none =>
      rw [Pattern.settle_of_elements?_eq_none o hp, Pattern.child?_mapChildren]
      cases s with
      | field i =>
          rw [Pattern.child?_field_eq_none hp, Option.map_none, ite_self]
      | _ => rfl
  | some e =>
      obtain ⟨path, rfl⟩ := Pattern.elements?_eq_some hp
      rw [Pattern.settle_struct]
      cases s with
      | field i =>
          have hopens : (Pattern.struct path e).opens o (.field i) =
              ((e.liveAttrs? (.field i)).bind (left? o)).isSome := rfl
          rw [hopens, Elements.liveAttrs?_field, child?, child?, Elements.getElem?_fields_settle]
          cases e.fields[i]? with
          | none => rfl
          | some f =>
              simp only [Option.map_some, Option.bind_some, Field.pattern?_settle_mapPattern]
              cases hs : f.isStripped with
              | true => simp
              | false => cases hr : f.attrs.any (refutes o) <;> simp [left?, hr]
      | _ => rfl

theorem Pattern.liveAttrs?_settle_nil (o : Options) (p : Pattern) (c : Carrier) :
    (p.settle o).liveAttrs? [] c = (p.liveAttrs? [] c).bind (left? o) := by
  cases hp : p.elements? with
  | none =>
      have hs : (p.settle o).elements? = none := by
        rw [Pattern.settle_of_elements?_eq_none o hp]
        cases p with
        | struct path e => cases hp
        | _ => rfl
      simp [liveAttrs?, get?, hp, hs]
  | some e =>
      obtain ⟨path, rfl⟩ := Pattern.elements?_eq_some hp
      rw [Pattern.settle_struct]
      exact Elements.liveAttrs?_settle o (Pattern.settle o) e c

theorem Pattern.liveAttrs?_settle_cons (o : Options) (p : Pattern) (s : Step) (steps : List Step)
    (c : Carrier) :
    (p.settle o).liveAttrs? (s :: steps) c =
      if p.opens o s then (p.child? s).bind fun q => (q.settle o).liveAttrs? steps c else none := by
  rw [liveAttrs?_cons, child?_settle]
  cases p.opens o s with
  | false => rfl
  | true => cases p.child? s <;> rfl

end SurfaceTree
