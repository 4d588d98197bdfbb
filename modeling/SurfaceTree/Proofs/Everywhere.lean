/-
Changes and collections that reach every struct pattern of a tree.

Only struct patterns carry attributes, so what a configuration does is local: it looks at the
fields and the rest marker of one struct pattern at a time.  The two recursions of this module take
care of the rest of the tree.  One makes a change between the braces of every struct pattern and
leaves all else as it is; the other gathers, in source order, what every struct pattern has to
contribute.

Main definitions:

* `Pattern.mapElements` — a change made between all braces, the innermost first;
* `Collector`, `Pattern.collect` — what a struct pattern contributes, and the gathering of it;
* `Pattern.attributes` — all attributes in a pattern.

Main results:

* `Pattern.mapElements_eq_self` — a change that has nothing to do leaves the tree as it is;
* `Pattern.mapElements_congr`, `Pattern.collect_of_agrees` — changes and collections that do the
  same between all braces;
* `Pattern.exists_of_occurs_mapElements` — between the braces of a changed tree stands the result
  of a change;
* `Pattern.collect_eq_nil`, `Pattern.exists_of_mem_collect` — what is gathered comes from a struct
  pattern that occurs in the tree;
* `Pattern.collect_subset` — a collection that takes more and goes further gathers more;
* `Pattern.Occurs.attributes_subset` — what occurs in a pattern brings no attributes of its own.
-/

import Mathlib.Data.List.Basic
import SurfaceTree.Proofs.Children

set_option relaxedAutoImplicit false
set_option autoImplicit false

namespace SurfaceTree

/-! ### A change between all braces -/

mutual

/-- **The pattern with a change made between the braces of every struct pattern**, after the
changes further down. -/
def Pattern.mapElements (change : Elements → Elements) : Pattern → Pattern
  | .literal v m s => .literal v m s
  | .ident x r m bind s => .ident x r m (Pattern.mapElementsOption change bind) s
  | .wildcard s => .wildcard s
  | .range l u e s => .range l u e s
  | .reference inner a m s => .reference (inner.mapElements change) a m s
  | .struct path elems => .struct path (change (elems.mapElements change))
  | .tupleStruct path items => .tupleStruct path (Items.mapElementsOption change items)
  | .tuple items s => .tuple (Items.mapElementsOption change items) s
  | .grouped inner s => .grouped (inner.mapElements change) s
  | .slice items s => .slice (Pattern.mapElementsAll change items) s

/-- The patterns of a list, each changed. -/
def Pattern.mapElementsAll (change : Elements → Elements) : List Pattern → List Pattern
  | [] => []
  | p :: ps => p.mapElements change :: Pattern.mapElementsAll change ps

/-- An optional pattern, changed if it is there. -/
def Pattern.mapElementsOption (change : Elements → Elements) : Option Pattern → Option Pattern
  | none => none
  | some p => some (p.mapElements change)

/-- The fields, each changed.  The elements as a whole are left to their pattern. -/
def Elements.mapElements (change : Elements → Elements) : Elements → Elements
  | ⟨fields, hasRest, restAttrs⟩ => ⟨Field.mapElementsAll change fields, hasRest, restAttrs⟩

/-- A field, with the pattern in it changed. -/
def Field.mapElements (change : Elements → Elements) : Field → Field
  | .indexed i p as s => .indexed i (Pattern.mapElementsOption change p) as s
  | .named x p as s => .named x (Pattern.mapElementsOption change p) as s
  | .shorthand x r m as s => .shorthand x r m as s

/-- The fields of a list, each changed. -/
def Field.mapElementsAll (change : Elements → Elements) : List Field → List Field
  | [] => []
  | f :: fs => f.mapElements change :: Field.mapElementsAll change fs

/-- The items on both sides of the rest marker, each changed. -/
def Items.mapElements (change : Elements → Elements) : Items → Items
  | .flat patterns s => .flat (Pattern.mapElementsAll change patterns) s
  | .ranged lower upper s =>
      .ranged (Pattern.mapElementsAll change lower) (Pattern.mapElementsAll change upper) s

/-- An optional list of items, changed if it is there. -/
def Items.mapElementsOption (change : Elements → Elements) : Option Items → Option Items
  | none => none
  | some items => some (items.mapElements change)

end

/-- A change made between the braces of a struct pattern itself. -/
def Pattern.onElements (change : Elements → Elements) : Pattern → Pattern
  | .struct path e => .struct path (change e)
  | p => p

section

variable (change : Elements → Elements)

theorem Pattern.mapElementsAll_eq_map (ps : List Pattern) :
    Pattern.mapElementsAll change ps = ps.map (Pattern.mapElements change) := by
  induction ps with
  | nil => rfl
  | cons p ps ih => rw [Pattern.mapElementsAll, ih, List.map_cons]

theorem Pattern.mapElementsOption_eq_map (p : Option Pattern) :
    Pattern.mapElementsOption change p = p.map (Pattern.mapElements change) := by
  cases p <;> rfl

theorem Field.mapElements_eq (f : Field) :
    f.mapElements change = f.mapPattern (Pattern.mapElements change) := by
  cases f <;>
    simp [Field.mapElements, Field.mapPattern, Pattern.mapElementsOption_eq_map]

theorem Field.mapElementsAll_eq_map (fs : List Field) :
    Field.mapElementsAll change fs = fs.map (Field.mapPattern (Pattern.mapElements change)) := by
  induction fs with
  | nil => rfl
  | cons f fs ih => rw [Field.mapElementsAll, Field.mapElements_eq, ih, List.map_cons]

theorem Elements.mapElements_eq (e : Elements) :
    e.mapElements change = e.mapPatterns (Pattern.mapElements change) := by
  obtain ⟨fields, hasRest, restAttrs⟩ := e
  rw [Elements.mapElements, Field.mapElementsAll_eq_map, Elements.mapPatterns]

theorem Items.mapElementsOption_eq_map (items : Option Items) :
    Items.mapElementsOption change items =
      items.map (Items.mapPatterns (Pattern.mapElements change)) := by
  cases items with
  | none => rfl
  | some i =>
      cases i <;>
        simp [Items.mapElementsOption, Items.mapElements, Items.mapPatterns,
          Pattern.mapElementsAll_eq_map]

/-- The change is made in the sub-patterns, and then in the pattern itself. -/
theorem Pattern.mapElements_eq (p : Pattern) :
    p.mapElements change =
      (p.mapChildren (Pattern.mapElements change)).onElements change := by
  cases p <;>
    simp [Pattern.mapElements, Pattern.mapChildren, Pattern.onElements,
      Pattern.mapElementsOption_eq_map, Pattern.mapElementsAll_eq_map, Elements.mapElements_eq,
      Items.mapElementsOption_eq_map]

/-- A change that has nothing to do between any braces leaves the tree as it is. -/
theorem Pattern.mapElements_eq_self {p : Pattern}
    (h : ∀ path e, Pattern.Occurs (.struct path e) p → change e = e) :
    p.mapElements change = p := by
  induction p using Pattern.induction with
  | step p ih =>
      -- what occurs in a sub-pattern occurs in the pattern, so nothing changes further down
      have hc : ∀ c ∈ p.children, c.mapElements change = c := fun c hc =>
        ih c hc fun path e ho => h path e (Pattern.Occurs.deeper hc ho)
      rw [Pattern.mapElements_eq, Pattern.mapChildren_eq_self hc]
      cases p with
      | struct path e => rw [Pattern.onElements, h path e Pattern.Occurs.self]
      | _ => rfl

/-- Two changes that do the same between all braces, whatever has been done further down, give the
same tree. -/
theorem Pattern.mapElements_congr {change' : Elements → Elements} {p : Pattern}
    (h : ∀ path e, Pattern.Occurs (.struct path e) p →
      ∀ g, change (e.mapPatterns g) = change' (e.mapPatterns g)) :
    p.mapElements change = p.mapElements change' := by
  induction p using Pattern.induction with
  | step p ih =>
      have hc : ∀ c ∈ p.children, c.mapElements change = c.mapElements change' := fun c hc =>
        ih c hc fun path e ho => h path e (Pattern.Occurs.deeper hc ho)
      rw [Pattern.mapElements_eq, Pattern.mapElements_eq, Pattern.mapChildren_congr hc]
      cases p with
      | struct path e => exact congrArg (Pattern.struct path) (h path e Pattern.Occurs.self _)
      | _ => rfl

/-- What stands between the braces of a changed tree is the result of a change, if the change
brings in no patterns of its own. -/
theorem Pattern.exists_of_occurs_mapElements
    (hsub : ∀ e, ∀ c ∈ (change e).patterns, c ∈ e.patterns) {p : Pattern} {path : ExprPath}
    {e : Elements} (h : Pattern.Occurs (.struct path e) (p.mapElements change)) :
    ∃ e', e = change e' := by
  induction p using Pattern.induction with
  | step p ih =>
      rw [Pattern.mapElements_eq] at h
      -- what occurs in a sub-pattern of the changed tree occurs in a changed sub-pattern
      have hbelow : ∀ c ∈ (p.mapChildren (Pattern.mapElements change)).children,
          Pattern.Occurs (.struct path e) c → ∃ e', e = change e' := by
        intro c hc ho
        rw [Pattern.children_mapChildren] at hc
        obtain ⟨d, hd, rfl⟩ := List.mem_map.1 hc
        exact ih d hd ho
      cases hp : p.mapChildren (Pattern.mapElements change) with
      | struct path' e' =>
          rw [hp] at h hbelow
          cases h with
          | self => exact ⟨e', rfl⟩
          | deeper hc ho => exact hbelow _ (hsub e' _ hc) ho
      | _ =>
          rw [hp] at h hbelow
          cases h with
          | deeper hc ho => exact hbelow _ hc ho

end

/-! ### A collection from all braces -/

/-- What a struct pattern contributes to a collection. -/
structure Collector (α : Type) where
  /-- What a field contributes itself. -/
  atField : Field → List α
  /-- The collection goes on below a field. -/
  enters : Field → Bool
  /-- What the rest marker contributes, whether it is present or not. -/
  atRest : Bool → List Attribute → List α

variable {α : Type}

mutual

/-- **What the struct patterns of a tree contribute**, in the order in which they are written: each
field is followed by what is below it, and the rest marker comes last. -/
def Pattern.collect (g : Collector α) : Pattern → List α
  | .literal _ _ _ => []
  | .ident _ _ _ bind _ => Pattern.collectOption g bind
  | .wildcard _ => []
  | .range _ _ _ _ => []
  | .reference inner _ _ _ => inner.collect g
  | .struct _ elems => elems.collect g
  | .tupleStruct _ items => Items.collectOption g items
  | .tuple items _ => Items.collectOption g items
  | .grouped inner _ => inner.collect g
  | .slice items _ => Pattern.collectAll g items

/-- What the patterns of a list contribute, one after another. -/
def Pattern.collectAll (g : Collector α) : List Pattern → List α
  | [] => []
  | p :: ps => p.collect g ++ Pattern.collectAll g ps

/-- What an optional pattern contributes if it is there. -/
def Pattern.collectOption (g : Collector α) : Option Pattern → List α
  | none => []
  | some p => p.collect g

/-- What the fields contribute, and then the rest marker. -/
def Elements.collect (g : Collector α) : Elements → List α
  | ⟨fields, hasRest, restAttrs⟩ => Field.collectAll g fields ++ g.atRest hasRest restAttrs

/-- What a field contributes, and then the pattern in it if the collection goes on there. -/
def Field.collect (g : Collector α) : Field → List α
  | .indexed i p as s =>
      g.atField (.indexed i p as s) ++
        if g.enters (.indexed i p as s) then Pattern.collectOption g p else []
  | .named x p as s =>
      g.atField (.named x p as s) ++
        if g.enters (.named x p as s) then Pattern.collectOption g p else []
  | .shorthand x r m as s => g.atField (.shorthand x r m as s)

/-- What the fields of a list contribute, one after another. -/
def Field.collectAll (g : Collector α) : List Field → List α
  | [] => []
  | f :: fs => f.collect g ++ Field.collectAll g fs

/-- What the items contribute, those before the rest marker first. -/
def Items.collect (g : Collector α) : Items → List α
  | .flat patterns _ => Pattern.collectAll g patterns
  | .ranged lower upper _ => Pattern.collectAll g lower ++ Pattern.collectAll g upper

/-- What an optional list of items contributes if it is there. -/
def Items.collectOption (g : Collector α) : Option Items → List α
  | none => []
  | some items => items.collect g

end

section

variable (g : Collector α)

theorem Pattern.collectAll_eq_flatMap (ps : List Pattern) :
    Pattern.collectAll g ps = ps.flatMap (Pattern.collect g) := by
  induction ps with
  | nil => rfl
  | cons p ps ih => rw [Pattern.collectAll, ih, List.flatMap_cons]

theorem Pattern.collectOption_eq_flatMap (p : Option Pattern) :
    Pattern.collectOption g p = p.toList.flatMap (Pattern.collect g) := by
  cases p <;> simp [Pattern.collectOption]

theorem Field.collectAll_eq_flatMap (fs : List Field) :
    Field.collectAll g fs = fs.flatMap (Field.collect g) := by
  induction fs with
  | nil => rfl
  | cons f fs ih => rw [Field.collectAll, ih, List.flatMap_cons]

theorem Field.collect_eq (f : Field) :
    f.collect g = g.atField f ++
      if g.enters f then Pattern.collectOption g f.pattern? else [] := by
  cases f with
  | shorthand x r m as s =>
      simp [Field.collect, Field.pattern?, Pattern.collectOption]
  | _ => rfl

theorem Items.collectOption_eq_flatMap (items : Option Items) :
    Items.collectOption g items =
      (items.toList.flatMap Items.patterns).flatMap (Pattern.collect g) := by
  cases items with
  | none => rfl
  | some i =>
      cases i <;>
        simp [Items.collectOption, Items.collect, Items.patterns, Pattern.collectAll_eq_flatMap]

/-- A pattern without braces contributes what its sub-patterns contribute. -/
theorem Pattern.collect_of_elements?_eq_none {p : Pattern} (h : p.elements? = none) :
    p.collect g = p.children.flatMap (Pattern.collect g) := by
  cases p with
  | struct path e => simp [Pattern.elements?] at h
  | _ =>
      simp [Pattern.collect, Pattern.children, Pattern.collectAll_eq_flatMap,
        Pattern.collectOption_eq_flatMap, Items.collectOption_eq_flatMap]

/-- A struct pattern contributes what its fields and its rest marker contribute. -/
theorem Pattern.collect_struct (path : ExprPath) (e : Elements) :
    (Pattern.struct path e).collect g =
      e.fields.flatMap (Field.collect g) ++ g.atRest e.hasRest e.restAttrs := by
  obtain ⟨fields, hasRest, restAttrs⟩ := e
  rw [Pattern.collect, Elements.collect, Field.collectAll_eq_flatMap]

/-- **What is collected comes from between the braces of a struct pattern in the tree.** -/
theorem Pattern.exists_of_mem_collect {p : Pattern} {a : α} (h : a ∈ p.collect g) :
    ∃ path e, Pattern.Occurs (.struct path e) p ∧
      ((∃ f ∈ e.fields, a ∈ g.atField f) ∨ a ∈ g.atRest e.hasRest e.restAttrs) := by
  induction p using Pattern.induction with
  | step p ih =>
      -- what is collected from a sub-pattern comes from braces further down
      have hbelow : ∀ c ∈ p.children, a ∈ c.collect g → ∃ path e,
          Pattern.Occurs (.struct path e) p ∧
            ((∃ f ∈ e.fields, a ∈ g.atField f) ∨ a ∈ g.atRest e.hasRest e.restAttrs) := by
        intro c hc ha
        obtain ⟨path, e, ho, he⟩ := ih c hc ha
        exact ⟨path, e, Pattern.Occurs.deeper hc ho, he⟩
      cases hp : p.elements? with
      | none =>
          rw [Pattern.collect_of_elements?_eq_none g hp] at h
          obtain ⟨c, hc, ha⟩ := List.mem_flatMap.1 h
          exact hbelow c hc ha
      | some e =>
          obtain ⟨path, rfl⟩ := Pattern.elements?_eq_some hp
          rw [Pattern.collect_struct] at h
          rcases List.mem_append.1 h with h | h
          · obtain ⟨f, hf, ha⟩ := List.mem_flatMap.1 h
            rw [Field.collect_eq] at ha
            rcases List.mem_append.1 ha with ha | ha
            · exact ⟨path, e, Pattern.Occurs.self, Or.inl ⟨f, hf, ha⟩⟩
            · split at ha
              · rw [Pattern.collectOption_eq_flatMap] at ha
                obtain ⟨c, hc, ha⟩ := List.mem_flatMap.1 ha
                exact hbelow c (List.mem_filterMap.2 ⟨f, hf, Option.mem_toList.1 hc⟩) ha
              · exact absurd ha List.not_mem_nil
          · exact ⟨path, e, Pattern.Occurs.self, Or.inr h⟩

/-- Nothing is collected where no struct pattern has anything to contribute. -/
theorem Pattern.collect_eq_nil {p : Pattern}
    (h : ∀ path e, Pattern.Occurs (.struct path e) p →
      (∀ f ∈ e.fields, g.atField f = []) ∧ g.atRest e.hasRest e.restAttrs = []) :
    p.collect g = [] := by
  refine List.eq_nil_iff_forall_not_mem.2 fun a ha => ?_
  obtain ⟨path, e, ho, hf | hr⟩ := Pattern.exists_of_mem_collect g ha
  · obtain ⟨f, hf, ha⟩ := hf
    rw [(h path e ho).1 f hf] at ha
    exact List.not_mem_nil ha
  · rw [(h path e ho).2] at hr
    exact List.not_mem_nil hr

end

/-- Between some braces, one collection takes nothing that the other does not take, and it goes on
only where the other does. -/
structure Collector.Within (g g' : Collector α) (e : Elements) : Prop where
  /-- From a field. -/
  atField : ∀ f ∈ e.fields, g.atField f ⊆ g'.atField f
  /-- Below a field. -/
  enters : ∀ f ∈ e.fields, g.enters f → g'.enters f
  /-- From the rest marker. -/
  atRest : g.atRest e.hasRest e.restAttrs ⊆ g'.atRest e.hasRest e.restAttrs

/-- A collection that takes more between all braces of a tree gathers more from the tree. -/
theorem Pattern.collect_subset {g g' : Collector α} {p : Pattern}
    (h : ∀ path e, Pattern.Occurs (.struct path e) p → g.Within g' e) :
    p.collect g ⊆ p.collect g' := by
  induction p using Pattern.induction with
  | step p ih =>
      have hbelow : ∀ c ∈ p.children, c.collect g ⊆ c.collect g' := fun c hc =>
        ih c hc fun path e ho => h path e (Pattern.Occurs.deeper hc ho)
      cases hp : p.elements? with
      | none =>
          rw [Pattern.collect_of_elements?_eq_none g hp, Pattern.collect_of_elements?_eq_none g' hp]
          intro a ha
          obtain ⟨c, hc, ha⟩ := List.mem_flatMap.1 ha
          exact List.mem_flatMap.2 ⟨c, hc, hbelow c hc ha⟩
      | some e =>
          obtain ⟨path, rfl⟩ := Pattern.elements?_eq_some hp
          have hw : g.Within g' e := h path e Pattern.Occurs.self
          rw [Pattern.collect_struct, Pattern.collect_struct]
          intro a ha
          rcases List.mem_append.1 ha with ha | ha
          · obtain ⟨f, hf, ha⟩ := List.mem_flatMap.1 ha
            refine List.mem_append_left _ (List.mem_flatMap.2 ⟨f, hf, ?_⟩)
            rw [Field.collect_eq] at ha ⊢
            rcases List.mem_append.1 ha with ha | ha
            · exact List.mem_append_left _ (hw.atField f hf ha)
            · -- where the smaller collection goes on, the larger one does too
              cases he : g.enters f with
              | false => simp [he] at ha
              | true =>
                  rw [he, if_pos rfl, Pattern.collectOption_eq_flatMap] at ha
                  rw [hw.enters f hf he, if_pos rfl, Pattern.collectOption_eq_flatMap]
                  obtain ⟨c, hc, ha⟩ := List.mem_flatMap.1 ha
                  have hce : c ∈ e.patterns := List.mem_filterMap.2 ⟨f, hf, Option.mem_toList.1 hc⟩
                  exact List.mem_append_right _ (List.mem_flatMap.2 ⟨c, hc, hbelow c hce ha⟩)
          · exact List.mem_append_right _ (hw.atRest ha)

/-- Between some braces, two collections take the same and go on below the same fields. -/
structure Collector.Agrees (g g' : Collector α) (e : Elements) : Prop where
  /-- From a field. -/
  atField : ∀ f ∈ e.fields, g.atField f = g'.atField f
  /-- Below a field. -/
  enters : ∀ f ∈ e.fields, g.enters f = g'.enters f
  /-- From the rest marker. -/
  atRest : g.atRest e.hasRest e.restAttrs = g'.atRest e.hasRest e.restAttrs

/-- Collections that agree between all braces of a tree gather the same from the tree. -/
theorem Pattern.collect_of_agrees {g g' : Collector α} {p : Pattern}
    (h : ∀ path e, Pattern.Occurs (.struct path e) p → g.Agrees g' e) :
    p.collect g = p.collect g' := by
  induction p using Pattern.induction with
  | step p ih =>
      have hbelow : ∀ c ∈ p.children, c.collect g = c.collect g' := fun c hc =>
        ih c hc fun path e ho => h path e (Pattern.Occurs.deeper hc ho)
      cases hp : p.elements? with
      | none =>
          rw [Pattern.collect_of_elements?_eq_none g hp, Pattern.collect_of_elements?_eq_none g' hp]
          exact List.flatMap_congr hbelow
      | some e =>
          obtain ⟨path, rfl⟩ := Pattern.elements?_eq_some hp
          have ha : g.Agrees g' e := h path e Pattern.Occurs.self
          have hfields : ∀ f ∈ e.fields, f.collect g = f.collect g' := by
            intro f hf
            have hopt : Pattern.collectOption g f.pattern? =
                Pattern.collectOption g' f.pattern? := by
              cases hc : f.pattern? with
              | none => rfl
              | some c => exact hbelow c (List.mem_filterMap.2 ⟨f, hf, hc⟩)
            rw [Field.collect_eq, Field.collect_eq, ha.atField f hf, ha.enters f hf, hopt]
          rw [Pattern.collect_struct, Pattern.collect_struct, List.flatMap_congr hfields, ha.atRest]

/-- Takes every attribute and goes on everywhere. -/
def Collector.attributes : Collector Attribute where
  atField := Field.attrs
  enters _ := true
  atRest _ as := as

/-- **All attributes in a pattern**, on slots and on absent rest markers too. -/
def Pattern.attributes (p : Pattern) : List Attribute := p.collect Collector.attributes

theorem Pattern.attributes_subset_of_mem {c p : Pattern} (h : c ∈ p.children) :
    c.attributes ⊆ p.attributes := by
  intro a ha
  unfold Pattern.attributes
  cases hp : p.elements? with
  | none =>
      rw [Pattern.collect_of_elements?_eq_none _ hp]
      exact List.mem_flatMap.2 ⟨c, h, ha⟩
  | some e =>
      obtain ⟨path, rfl⟩ := Pattern.elements?_eq_some hp
      obtain ⟨f, hf, hc⟩ := List.mem_filterMap.1 h
      have hfc : a ∈ f.collect Collector.attributes := by
        rw [Field.collect_eq, hc]
        exact List.mem_append_right f.attrs ha
      rw [Pattern.collect_struct]
      exact List.mem_append_left _ (List.mem_flatMap.2 ⟨f, hf, hfc⟩)

/-- The attributes of what occurs in a pattern are attributes in the pattern. -/
theorem Pattern.Occurs.attributes_subset {q p : Pattern} (h : Pattern.Occurs q p) :
    q.attributes ⊆ p.attributes := by
  induction h with
  | self => exact List.Subset.refl q.attributes
  | deeper hc _ ih => exact List.Subset.trans ih (Pattern.attributes_subset_of_mem hc)

theorem Pattern.attributes_struct (path : ExprPath) (e : Elements) :
    (Pattern.struct path e).attributes =
      e.fields.flatMap (Field.collect Collector.attributes) ++ e.restAttrs :=
  Pattern.collect_struct Collector.attributes path e

theorem Pattern.Occurs.attrs_subset {path : ExprPath} {e : Elements} {p : Pattern}
    (h : Pattern.Occurs (.struct path e) p) {f : Field} (hf : f ∈ e.fields) :
    f.attrs ⊆ p.attributes := by
  intro a ha
  have hfa : a ∈ f.collect Collector.attributes := by
    rw [Field.collect_eq]
    exact List.mem_append_left _ ha
  refine h.attributes_subset ?_
  rw [Pattern.attributes_struct]
  exact List.mem_append_left _ (List.mem_flatMap.2 ⟨f, hf, hfa⟩)

theorem Pattern.Occurs.restAttrs_subset {path : ExprPath} {e : Elements} {p : Pattern}
    (h : Pattern.Occurs (.struct path e) p) : e.restAttrs ⊆ p.attributes := by
  intro a ha
  refine h.attributes_subset ?_
  rw [Pattern.attributes_struct]
  exact List.mem_append_right _ ha

end SurfaceTree
