/-
Conditions in writing.

A condition can be written down as a meta item, and it is written there as it is rendered.  Of the
literals in a meta item a condition keeps the value alone; so the meta items that state the same
condition can differ in the spans of their literals and in the suffixes, and in nothing else.

Main definitions:

* `Config.Predicate.item` — **a condition as a meta item**;
* `MetaItem.literals` — the literals of a meta item, however deep;
* `MetaItem.bare` — a meta item without the spans and the suffixes of its literals.

Main results:

* `MetaItem.induction`, `Config.Predicate.induction` — induction along items and operands;
* `Config.Predicate.eq_of_item` — no two conditions are the same meta item;
* `Config.Predicate.bare_item` — a condition in writing has neither spans nor suffixes;
* `MetaItem.render_bare`, `Config.Predicate.render_item` — **the three are rendered alike**, if no
  literal has a suffix.
-/

import SurfaceTree.Proofs.Mentioned

set_option relaxedAutoImplicit false
set_option autoImplicit false

namespace SurfaceTree

@[simp] theorem SimplePath.render_single (name : String) : (SimplePath.single name).render = name :=
  rfl

/-! ### Meta items without spans and suffixes -/

/-- A literal without its span and its suffix. -/
def Literal.bare (v : Literal) : Literal := { v with suffix := none, span := .dummy }

theorem Literal.render_bare {v : Literal} (h : v.suffix = none) : v.bare.render = v.render := by
  rw [render, render, h]
  rfl

namespace MetaItem

/-- **Induction along the items of lists.** -/
@[elab_as_elim] theorem induction {motive : MetaItem → Prop}
    (word : ∀ path, motive (.word path))
    (nameValue : ∀ path value, motive (.nameValue path value))
    (list : ∀ path items, (∀ m ∈ items, motive m) → motive (.list path items))
    (literal : ∀ value, motive (.literal value)) (m : MetaItem) : motive m := by
  cases m with
  | word path => exact word path
  | nameValue path value => exact nameValue path value
  | list path items => exact list path items fun m _ => induction word nameValue list literal m
  | literal value => exact literal value

mutual

/-- A meta item without the spans and the suffixes of its literals. -/
def bare : MetaItem → MetaItem
  | .word p => .word p
  | .nameValue p v => .nameValue p v.bare
  | .list p ms => .list p (bareAll ms)
  | .literal v => .literal v.bare

/-- The meta items of a list, one by one. -/
def bareAll : List MetaItem → List MetaItem
  | [] => []
  | m :: ms => m.bare :: bareAll ms

end

mutual

/-- The literals of a meta item, from left to right. -/
def literals : MetaItem → List Literal
  | .word _ => []
  | .nameValue _ v | .literal v => [v]
  | .list _ ms => literalsAll ms

/-- The literals of the meta items of a list, from left to right. -/
def literalsAll : List MetaItem → List Literal
  | [] => []
  | m :: ms => m.literals ++ literalsAll ms

end

theorem bareAll_eq_map (ms : List MetaItem) : bareAll ms = ms.map bare := by
  induction ms with
  | nil => rfl
  | cons m ms ih => rw [bareAll, ih, List.map_cons]

theorem literalsAll_eq_flatMap (ms : List MetaItem) : literalsAll ms = ms.flatMap literals := by
  induction ms with
  | nil => rfl
  | cons m ms ih => rw [literalsAll, ih, List.flatMap_cons]

/-- What has a suffix nowhere is rendered like its bare form. -/
theorem render_bare (m : MetaItem) (h : ∀ v ∈ m.literals, v.suffix = none) :
    m.bare.render = m.render := by
  induction m using MetaItem.induction with
  | word p => rfl
  | nameValue p v =>
      have hv : v.suffix = none := h v List.mem_cons_self
      rw [bare, render, render, Literal.render_bare hv]
  | list p ms ih =>
      have hms : ms.map (render ∘ bare) = ms.map render := by
        refine List.map_congr_left fun m hm => ih m hm fun v hv => h v ?_
        rw [literals, literalsAll_eq_flatMap]
        exact List.mem_flatMap.2 ⟨m, hm, hv⟩
      rw [bare, render, render, bareAll_eq_map, renderAll_eq_map, renderAll_eq_map, List.map_map,
        hms]
  | literal v =>
      have hv : v.suffix = none := h v List.mem_cons_self
      rw [bare, render, render, Literal.render_bare hv]

end MetaItem

/-! ### Conditions as meta items -/

namespace Config.Predicate

/-- **Induction along operands.** -/
@[elab_as_elim] theorem induction {motive : Predicate → Prop}
    (name : ∀ n, motive (.name n))
    (pair : ∀ k v, motive (.pair k v))
    (all : ∀ ps, (∀ p ∈ ps, motive p) → motive (.all ps))
    (any : ∀ ps, (∀ p ∈ ps, motive p) → motive (.any ps))
    (not : ∀ p, motive p → motive (.not p)) (p : Predicate) : motive p := by
  cases p with
  | name n => exact name n
  | pair k v => exact pair k v
  | all ps => exact all ps fun p _ => induction name pair all any not p
  | any ps => exact any ps fun p _ => induction name pair all any not p
  | not p => exact not p (induction name pair all any not p)

mutual

/-- **A condition as a meta item.** -/
def item : Predicate → MetaItem
  | .name n => .word (.single n)
  | .pair k v => .nameValue (.single k) ⟨.text, v, none, .dummy⟩
  | .all ps => .list (.single "all") (itemAll ps)
  | .any ps => .list (.single "any") (itemAll ps)
  | .not p => .list (.single "not") [p.item]

/-- The conditions of a list, one by one. -/
def itemAll : List Predicate → List MetaItem
  | [] => []
  | p :: ps => p.item :: itemAll ps

end

theorem itemAll_eq_map (ps : List Predicate) : itemAll ps = ps.map item := by
  induction ps with
  | nil => rfl
  | cons p ps ih => rw [itemAll, ih, List.map_cons]

/-- What holds in writing of each operand whose flags are of some kind holds of all of them, if the
flags of all are. -/
theorem forall_itemAll {P : Flag → Prop} {Q : MetaItem → Prop} {ps : List Predicate}
    (hflags : ∀ f ∈ flagsAll ps, P f) (h : ∀ p ∈ ps, (∀ f ∈ p.flags, P f) → Q p.item) :
    ∀ m ∈ itemAll ps, Q m := by
  intro m hm
  rw [itemAll_eq_map] at hm
  obtain ⟨p, hp, rfl⟩ := List.mem_map.1 hm
  exact h p hp (forall_flagsAll_iff.1 hflags p hp)

mutual

/-- No two conditions are the same meta item. -/
theorem eq_of_item {p q : Predicate} (h : p.item = q.item) : p = q := by
  match p with
  | .name n => cases q <;> simp_all [item, SimplePath.single]
  | .pair k v => cases q <;> simp_all [item, SimplePath.single]
  | .all ps =>
      cases q with
      | all qs => exact congrArg Predicate.all (eq_of_itemAll (MetaItem.list.inj h).2)
      | _ => simp [item, SimplePath.single] at h
  | .any ps =>
      cases q with
      | any qs => exact congrArg Predicate.any (eq_of_itemAll (MetaItem.list.inj h).2)
      | _ => simp [item, SimplePath.single] at h
  | .not p =>
      cases q with
      | not q =>
          have hpq : p.item = q.item := (List.cons.inj (MetaItem.list.inj h).2).1
          exact congrArg Predicate.not (eq_of_item hpq)
      | _ => simp [item, SimplePath.single] at h

theorem eq_of_itemAll {ps qs : List Predicate} (h : itemAll ps = itemAll qs) : ps = qs := by
  match ps with
  | [] =>
      cases qs with
      | nil => rfl
      | cons q qs => cases h
  | p :: ps =>
      cases qs with
      | nil => cases h
      | cons q qs =>
          obtain ⟨hp, hps⟩ := List.cons.inj h
          rw [eq_of_item hp, eq_of_itemAll hps]

end

/-- A condition in writing has neither spans nor suffixes. -/
theorem bare_item (p : Predicate) : p.item.bare = p.item := by
  have hall : ∀ ps : List Predicate, (∀ p ∈ ps, p.item.bare = p.item) →
      MetaItem.bareAll (itemAll ps) = itemAll ps := by
    intro ps h
    rw [MetaItem.bareAll_eq_map, itemAll_eq_map, List.map_map]
    exact List.map_congr_left h
  induction p using Predicate.induction with
  | name n => rfl
  | pair k v => rfl
  | all ps ih => rw [item, MetaItem.bare, hall ps ih]
  | any ps ih => rw [item, MetaItem.bare, hall ps ih]
  | not p ih => rw [item, MetaItem.bare, MetaItem.bareAll, MetaItem.bareAll, ih]

/-- **A condition is rendered as it is in writing.** -/
theorem render_item (p : Predicate) : p.item.render = p.render := by
  have hall : ∀ ps : List Predicate, (∀ p ∈ ps, p.item.render = p.render) →
      MetaItem.renderAll (itemAll ps) = renderAll ps := by
    intro ps h
    rw [MetaItem.renderAll_eq_map, itemAll_eq_map, renderAll_eq_map, List.map_map]
    exact List.map_congr_left h
  induction p using Predicate.induction with
  | name n => rfl
  | pair k v =>
      change k ++ " = " ++ ("\"" ++ v ++ "\"" ++ "") = k ++ " = \"" ++ v ++ "\""
      simp only [String.append_assoc, String.append_empty]
      rfl
  | all ps ih =>
      rw [item, MetaItem.render, hall ps ih, render]
      rfl
  | any ps ih =>
      rw [item, MetaItem.render, hall ps ih, render]
      rfl
  | not p ih =>
      rw [item, MetaItem.render, MetaItem.renderAll, MetaItem.renderAll, ih, render]
      rfl

end Config.Predicate

end SurfaceTree
