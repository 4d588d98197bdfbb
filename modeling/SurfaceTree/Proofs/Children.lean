/-
The immediate sub-patterns of a pattern, and induction along them.

Ten forms of patterns keep their sub-patterns in six different places: behind `@`, behind a mark,
in the fields of a struct, in two kinds of item lists and in a slice.  An argument about the whole
tree seldom cares which, and this module makes it possible not to say.

Main definitions:

* `Pattern.children` — the immediate sub-patterns, in the order in which they are written;
* `Pattern.mapChildren` — the pattern with each of them replaced;
* `Pattern.Occurs` — a pattern stands somewhere in another, or is that pattern.

Main results:

* `Pattern.induction` — **induction along sub-patterns**, whatever form they are in;
* `Pattern.children_mapChildren`, `Pattern.mapChildren_congr`, `Pattern.mapChildren_eq_self` — the
  laws of replacement;
* `Pattern.occurs_iff_get?` — what occurs is what stands at a position.
-/

import SurfaceTree.Pattern.Position

set_option relaxedAutoImplicit false
set_option autoImplicit false

namespace SurfaceTree

/-! ### Sub-patterns -/

/-- The patterns of a list of items, those before the rest marker first. -/
def Items.patterns : Items → List Pattern
  | .flat ps _ => ps
  | .ranged ls us _ => ls ++ us

/-- The patterns of the fields.  The short form and the slots of stripped fields have none. -/
def Elements.patterns (e : Elements) : List Pattern := e.fields.filterMap Field.pattern?

/-- **The immediate sub-patterns of a pattern**, from left to right. -/
def Pattern.children : Pattern → List Pattern
  | .ident _ _ _ bind _ => bind.toList
  | .reference p _ _ _ | .grouped p _ => [p]
  | .struct _ e => e.patterns
  | .tupleStruct _ items | .tuple items _ => items.toList.flatMap Items.patterns
  | .slice ps _ => ps
  | .literal _ _ _ | .wildcard _ | .range _ _ _ _ => []

/-- A pattern with braces is a struct pattern. -/
theorem Pattern.elements?_eq_some {p : Pattern} {e : Elements} (h : p.elements? = some e) :
    ∃ path, p = .struct path e := by
  cases p with
  | struct path e' => exact ⟨path, by rw [Option.some.inj h]⟩
  | _ => simp [elements?] at h

/-- A slot has no pattern. -/
theorem Field.pattern?_of_isStripped {f : Field} (h : f.isStripped = true) : f.pattern? = none := by
  cases f with
  | shorthand x r m as s => rfl
  | indexed i p as s => exact Option.isNone_iff_eq_none.1 h
  | named x p as s => exact Option.isNone_iff_eq_none.1 h

theorem Items.sizeOf_lt_of_mem {c : Pattern} {items : Items} (h : c ∈ items.patterns) :
    sizeOf c < sizeOf items := by
  cases items with
  | flat ps s =>
      have hc : sizeOf c < sizeOf ps := List.sizeOf_lt_of_mem h
      simp only [Items.flat.sizeOf_spec]
      omega
  | ranged ls us s =>
      simp only [Items.ranged.sizeOf_spec]
      rcases List.mem_append.1 h with h | h
      · have hc : sizeOf c < sizeOf ls := List.sizeOf_lt_of_mem h
        omega
      · have hc : sizeOf c < sizeOf us := List.sizeOf_lt_of_mem h
        omega

theorem Field.sizeOf_lt_of_pattern? {c : Pattern} {f : Field} (h : f.pattern? = some c) :
    sizeOf c < sizeOf f := by
  cases f with
  | indexed i p as s =>
      obtain rfl : p = some c := h
      simp only [Field.indexed.sizeOf_spec, Option.some.sizeOf_spec]
      omega
  | named x p as s =>
      obtain rfl : p = some c := h
      simp only [Field.named.sizeOf_spec, Option.some.sizeOf_spec]
      omega
  | shorthand x r m as s => simp [Field.pattern?] at h

theorem Elements.sizeOf_lt_of_mem {c : Pattern} {e : Elements} (h : c ∈ e.patterns) :
    sizeOf c < sizeOf e := by
  obtain ⟨fields, hasRest, restAttrs⟩ := e
  obtain ⟨f, hf, hc⟩ := List.mem_filterMap.1 h
  have hcf : sizeOf c < sizeOf f := Field.sizeOf_lt_of_pattern? hc
  have hff : sizeOf f < sizeOf fields := List.sizeOf_lt_of_mem hf
  simp only [Elements.mk.sizeOf_spec]
  omega

namespace Pattern

/-- An immediate sub-pattern is smaller. -/
theorem sizeOf_lt_of_mem_children {c p : Pattern} (h : c ∈ p.children) : sizeOf c < sizeOf p := by
  cases p with
  | ident x r m bind s =>
      obtain rfl : bind = some c := by simpa [children] using h
      simp only [Pattern.ident.sizeOf_spec, Option.some.sizeOf_spec]
      omega
  | reference q a m s =>
      obtain rfl : c = q := by simpa [children] using h
      simp only [Pattern.reference.sizeOf_spec]
      omega
  | grouped q s =>
      obtain rfl : c = q := by simpa [children] using h
      simp only [Pattern.grouped.sizeOf_spec]
      omega
  | struct path e =>
      have hc : sizeOf c < sizeOf e := Elements.sizeOf_lt_of_mem h
      simp only [Pattern.struct.sizeOf_spec]
      omega
  | tupleStruct path items =>
      obtain ⟨i, hi, hc⟩ := List.mem_flatMap.1 h
      obtain rfl : items = some i := by simpa using hi
      have hci : sizeOf c < sizeOf i := Items.sizeOf_lt_of_mem hc
      simp only [Pattern.tupleStruct.sizeOf_spec, Option.some.sizeOf_spec]
      omega
  | tuple items s =>
      obtain ⟨i, hi, hc⟩ := List.mem_flatMap.1 h
      obtain rfl : items = some i := by simpa using hi
      have hci : sizeOf c < sizeOf i := Items.sizeOf_lt_of_mem hc
      simp only [Pattern.tuple.sizeOf_spec, Option.some.sizeOf_spec]
      omega
  | slice ps s =>
      have hc : sizeOf c < sizeOf ps := List.sizeOf_lt_of_mem h
      simp only [Pattern.slice.sizeOf_spec]
      omega
  | literal v m s => simp [children] at h
  | wildcard s => simp [children] at h
  | range l u e s => simp [children] at h

/-- **Induction along sub-patterns.** -/
@[elab_as_elim] theorem induction {motive : Pattern → Prop}
    (step : ∀ p, (∀ c ∈ p.children, motive c) → motive p) (p : Pattern) : motive p :=
  step p fun c _ => induction step c
termination_by sizeOf p
decreasing_by exact sizeOf_lt_of_mem_children ‹_›

end Pattern

/-! ### Replacement of all sub-patterns -/

/-- The items with each pattern replaced. -/
def Items.mapPatterns (g : Pattern → Pattern) : Items → Items
  | .flat ps s => .flat (ps.map g) s
  | .ranged ls us s => .ranged (ls.map g) (us.map g) s

/-- The field with its pattern replaced, if it has one. -/
def Field.mapPattern (g : Pattern → Pattern) : Field → Field
  | .indexed i p as s => .indexed i (p.map g) as s
  | .named x p as s => .named x (p.map g) as s
  | .shorthand x r m as s => .shorthand x r m as s

/-- The fields with each pattern replaced. -/
def Elements.mapPatterns (g : Pattern → Pattern) (e : Elements) : Elements :=
  { e with fields := e.fields.map (Field.mapPattern g) }

/-- The pattern with each immediate sub-pattern replaced, and nothing else. -/
def Pattern.mapChildren (g : Pattern → Pattern) : Pattern → Pattern
  | .ident x r m bind s => .ident x r m (bind.map g) s
  | .reference p a m s => .reference (g p) a m s
  | .struct path e => .struct path (e.mapPatterns g)
  | .tupleStruct path items => .tupleStruct path (items.map (Items.mapPatterns g))
  | .tuple items s => .tuple (items.map (Items.mapPatterns g)) s
  | .grouped p s => .grouped (g p) s
  | .slice ps s => .slice (ps.map g) s
  | .literal v m s => .literal v m s
  | .wildcard s => .wildcard s
  | .range l u e s => .range l u e s

@[simp] theorem Items.patterns_mapPatterns (g : Pattern → Pattern) (items : Items) :
    (items.mapPatterns g).patterns = items.patterns.map g := by
  cases items <;> simp [mapPatterns, patterns]

@[simp] theorem Field.pattern?_mapPattern (g : Pattern → Pattern) (f : Field) :
    (f.mapPattern g).pattern? = f.pattern?.map g := by
  cases f <;> rfl

@[simp] theorem Elements.patterns_mapPatterns (g : Pattern → Pattern) (e : Elements) :
    (e.mapPatterns g).patterns = e.patterns.map g := by
  simp only [patterns, mapPatterns, List.filterMap_map, List.map_filterMap, Function.comp_def,
    Field.pattern?_mapPattern]

theorem Items.mapPatterns_congr {g g' : Pattern → Pattern} {items : Items}
    (h : ∀ c ∈ items.patterns, g c = g' c) : items.mapPatterns g = items.mapPatterns g' := by
  cases items with
  | flat ps s =>
      have hps : ps.map g = ps.map g' := List.map_congr_left h
      rw [mapPatterns, mapPatterns, hps]
  | ranged ls us s =>
      have hls : ls.map g = ls.map g' :=
        List.map_congr_left fun c hc => h c (List.mem_append_left us hc)
      have hus : us.map g = us.map g' :=
        List.map_congr_left fun c hc => h c (List.mem_append_right ls hc)
      rw [mapPatterns, mapPatterns, hls, hus]

theorem Field.mapPattern_congr {g g' : Pattern → Pattern} {f : Field}
    (h : ∀ c, f.pattern? = some c → g c = g' c) : f.mapPattern g = f.mapPattern g' := by
  cases f with
  | indexed i p as s =>
      have hp : p.map g = p.map g' := Option.map_congr h
      rw [mapPattern, mapPattern, hp]
  | named x p as s =>
      have hp : p.map g = p.map g' := Option.map_congr h
      rw [mapPattern, mapPattern, hp]
  | shorthand x r m as s => rfl

theorem Elements.mapPatterns_congr {g g' : Pattern → Pattern} {e : Elements}
    (h : ∀ c ∈ e.patterns, g c = g' c) : e.mapPatterns g = e.mapPatterns g' := by
  obtain ⟨fields, hasRest, restAttrs⟩ := e
  have hfs : fields.map (Field.mapPattern g) = fields.map (Field.mapPattern g') :=
    List.map_congr_left fun f hf =>
      Field.mapPattern_congr fun c hc => h c (List.mem_filterMap.2 ⟨f, hf, hc⟩)
  rw [mapPatterns, mapPatterns, hfs]

@[simp] theorem Items.mapPatterns_id (items : Items) : items.mapPatterns id = items := by
  cases items <;> simp [mapPatterns]

@[simp] theorem Field.mapPattern_id (f : Field) : f.mapPattern id = f := by
  cases f <;> simp [mapPattern]

@[simp] theorem Elements.mapPatterns_id (e : Elements) : e.mapPatterns id = e := by
  obtain ⟨fields, hasRest, restAttrs⟩ := e
  have hfs : fields.map (Field.mapPattern id) = fields :=
    (List.map_congr_left fun f _ => f.mapPattern_id).trans (List.map_id fields)
  rw [mapPatterns, hfs]

theorem Field.mapPattern_eq_self {g : Pattern → Pattern} {f : Field}
    (h : ∀ c, f.pattern? = some c → g c = c) : f.mapPattern g = f :=
  (Field.mapPattern_congr h).trans f.mapPattern_id

theorem Items.exists_child?_of_mem {c : Pattern} {items : Items} (h : c ∈ items.patterns) :
    ∃ s, items.child? s = some c := by
  cases items with
  | flat ps sp =>
      obtain ⟨i, hi⟩ := List.mem_iff_getElem?.1 h
      exact ⟨.item i, hi⟩
  | ranged ls us sp =>
      rcases List.mem_append.1 h with h | h
      · obtain ⟨i, hi⟩ := List.mem_iff_getElem?.1 h
        exact ⟨.lower i, hi⟩
      · obtain ⟨i, hi⟩ := List.mem_iff_getElem?.1 h
        exact ⟨.upper i, hi⟩

theorem Items.mem_of_child? {c : Pattern} {items : Items} {s : Step}
    (h : items.child? s = some c) : c ∈ items.patterns := by
  cases items with
  | flat ps sp =>
      cases s with
      | item i => exact List.mem_of_getElem? h
      | _ => simp [child?] at h
  | ranged ls us sp =>
      cases s with
      | lower i => exact List.mem_append_left us (List.mem_of_getElem? h)
      | upper i => exact List.mem_append_right ls (List.mem_of_getElem? h)
      | _ => simp [child?] at h

namespace Pattern

/-- The sub-patterns of a pattern whose sub-patterns were replaced are the replacements. -/
@[simp] theorem children_mapChildren (g : Pattern → Pattern) (p : Pattern) :
    (p.mapChildren g).children = p.children.map g := by
  cases p with
  | struct path e => exact e.patterns_mapPatterns g
  | ident x r m bind s => cases bind <;> rfl
  | tupleStruct path items => cases items <;> simp [mapChildren, children]
  | tuple items s => cases items <;> simp [mapChildren, children]
  | _ => rfl

/-- Replacements that agree on the sub-patterns give the same pattern. -/
theorem mapChildren_congr {g g' : Pattern → Pattern} {p : Pattern}
    (h : ∀ c ∈ p.children, g c = g' c) : p.mapChildren g = p.mapChildren g' := by
  cases p with
  | struct path e => rw [mapChildren, mapChildren, Elements.mapPatterns_congr h]
  | ident x r m bind s =>
      have hb : bind.map g = bind.map g' :=
        Option.map_congr fun c hc => h c (Option.mem_toList.2 hc)
      rw [mapChildren, mapChildren, hb]
  | reference q a m s => rw [mapChildren, mapChildren, h q (List.mem_singleton.2 rfl)]
  | grouped q s => rw [mapChildren, mapChildren, h q (List.mem_singleton.2 rfl)]
  | tupleStruct path items =>
      cases items with
      | none => rfl
      | some i =>
          have hi : i.mapPatterns g = i.mapPatterns g' :=
            Items.mapPatterns_congr (by simpa [children] using h)
          rw [mapChildren, mapChildren, Option.map_some, Option.map_some, hi]
  | tuple items s =>
      cases items with
      | none => rfl
      | some i =>
          have hi : i.mapPatterns g = i.mapPatterns g' :=
            Items.mapPatterns_congr (by simpa [children] using h)
          rw [mapChildren, mapChildren, Option.map_some, Option.map_some, hi]
  | slice ps s =>
      have hps : ps.map g = ps.map g' := List.map_congr_left h
      rw [mapChildren, mapChildren, hps]
  | _ => rfl

@[simp] theorem mapChildren_id (p : Pattern) : p.mapChildren id = p := by
  cases p with
  | struct path e => rw [mapChildren, e.mapPatterns_id]
  | tupleStruct path items => cases items <;> simp [mapChildren]
  | tuple items s => cases items <;> simp [mapChildren]
  | _ => simp [mapChildren]

/-- Replacing each sub-pattern by itself changes nothing. -/
theorem mapChildren_eq_self {g : Pattern → Pattern} {p : Pattern}
    (h : ∀ c ∈ p.children, g c = c) : p.mapChildren g = p :=
  (mapChildren_congr h).trans p.mapChildren_id

/-! ### Occurrences -/

/-- A pattern occurs in another if it is that pattern or occurs in one of its sub-patterns. -/
inductive Occurs (q : Pattern) : Pattern → Prop
  | self : Occurs q q
  | deeper {c p : Pattern} : c ∈ p.children → Occurs q c → Occurs q p

/-- The sub-patterns are what the steps lead to. -/
theorem mem_children_iff {c p : Pattern} : c ∈ p.children ↔ ∃ s, p.child? s = some c := by
  constructor
  · intro h
    cases p with
    | ident x r m bind s => exact ⟨.bind, Option.mem_toList.1 h⟩
    | reference q a m s => exact ⟨.inner, by rw [List.mem_singleton.1 h, child?]⟩
    | grouped q s => exact ⟨.inner, by rw [List.mem_singleton.1 h, child?]⟩
    | struct path e =>
        obtain ⟨f, hf, hc⟩ := List.mem_filterMap.1 h
        obtain ⟨i, hi⟩ := List.mem_iff_getElem?.1 hf
        exact ⟨.field i, by rw [child?, hi, Option.bind_some, hc]⟩
    | tupleStruct path items =>
        obtain ⟨i, hi, hc⟩ := List.mem_flatMap.1 h
        obtain rfl : items = some i := Option.mem_toList.1 hi
        exact Items.exists_child?_of_mem hc
    | tuple items s =>
        obtain ⟨i, hi, hc⟩ := List.mem_flatMap.1 h
        obtain rfl : items = some i := Option.mem_toList.1 hi
        exact Items.exists_child?_of_mem hc
    | slice ps s =>
        obtain ⟨i, hi⟩ := List.mem_iff_getElem?.1 h
        exact ⟨.item i, hi⟩
    | literal v m s => exact absurd h List.not_mem_nil
    | wildcard s => exact absurd h List.not_mem_nil
    | range l u e s => exact absurd h List.not_mem_nil
  · rintro ⟨s, h⟩
    -- only a step of the right kind leads out of a form
    cases p with
    | struct path e =>
        cases s with
        | field i =>
            obtain ⟨f, hf, hc⟩ := Option.bind_eq_some_iff.1 h
            exact List.mem_filterMap.2 ⟨f, List.mem_of_getElem? hf, hc⟩
        | _ => simp [child?] at h
    | tupleStruct path items =>
        cases items with
        | none => simp [child?] at h
        | some i => simpa [children] using Items.mem_of_child? (s := s) h
    | tuple items sp =>
        cases items with
        | none => simp [child?] at h
        | some i => simpa [children] using Items.mem_of_child? (s := s) h
    | slice ps sp =>
        cases s with
        | item i => exact List.mem_of_getElem? h
        | _ => simp [child?] at h
    | _ => cases s <;> simp_all [child?, children]

/-- **What occurs in a pattern is what stands at one of its positions.** -/
theorem occurs_iff_get? {p q : Pattern} : Occurs q p ↔ ∃ steps, p.get? steps = some q := by
  constructor
  · intro h
    induction h with
    | self => exact ⟨[], rfl⟩
    | deeper hc _ ih =>
        obtain ⟨steps, hs⟩ := ih
        obtain ⟨s, hs'⟩ := mem_children_iff.1 hc
        exact ⟨s :: steps, by rw [get?, hs', Option.bind_some, hs]⟩
  · rintro ⟨steps, h⟩
    induction steps generalizing p with
    | nil =>
        obtain rfl : p = q := Option.some.inj h
        exact Occurs.self
    | cons s steps ih =>
        obtain ⟨c, hc, hq⟩ := Option.bind_eq_some_iff.1 h
        exact Occurs.deeper (mem_children_iff.2 ⟨s, hc⟩) (ih hq)

end Pattern

end SurfaceTree
