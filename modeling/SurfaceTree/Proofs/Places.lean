/-
Places in a tree, and the order in which a traversal comes to them.

A place is found from the root by counting: the second part in the first part is at `[0, 1]`.  A
part comes before what stands in it, and of two parts the one that is written first comes first,
exactly if the places are in lexicographic order.  So what a traversal visits, how often and in
which order is said by one list of places in ascending order.

Main definitions:

* `Part.get?` — the part at a place;
* `Part.Walked`, `Part.places` — the places that a traversal comes to, and all of them in order;
* `Part.InSegment` — a place leads into the segments of a qualified path in a type;
* `Part.typeNode?`, `Visitor.types` — the node of a type at a place, and a visitor that records
  these nodes.

Main results:

* `Part.pairwise_places`, `Part.mem_places_iff` — the places ascend, and none is left out;
* `Part.visit_trace` — **a traversal records what it comes to**, in the order of places;
* `Part.walked_iff_of_typeNode` — the nodes of types that a traversal does not come to;
* `Ty.visit_types` — **which nodes of types a traversal of a type records**, and in which order;
* `Ty.visit_types_projection` — one that it does not record.
-/

import Mathlib.Data.List.FinRange
import SurfaceTree.Proofs.Parts

set_option relaxedAutoImplicit false
set_option autoImplicit false

namespace SurfaceTree

namespace Part

/-! ### Places -/

/-- The part at a place. -/
def get? : Part → List Nat → Option Part
  | p, [] => some p
  | p, i :: place => (p.children[i]?).bind (·.get? place)

theorem get?_cons {p c : Part} {i : Nat} (h : p.children[i]? = some c) (place : List Nat) :
    p.get? (i :: place) = c.get? place := by
  rw [get?, h, Option.bind_some]

theorem get?_append (p : Part) (before after : List Nat) :
    p.get? (before ++ after) = (p.get? before).bind (·.get? after) := by
  induction before generalizing p with
  | nil => rfl
  | cons i before ih =>
      rw [List.cons_append, get?, get?]
      cases p.children[i]? with
      | none => rfl
      | some c => exact ih c

/-- A traversal comes to a place if it goes on to it at every step. -/
def Walked : Part → List Nat → Prop
  | _, [] => True
  | p, i :: place => ∃ c, p.walked[i]? = some c ∧ c.Walked place

/-- **The places that a traversal comes to**, one after another. -/
def places (p : Part) : List (List Nat) :=
  [] :: (List.finRange p.walked.length).flatMap fun i => (places p.walked[i]).map (i.val :: ·)
termination_by sizeOf p
decreasing_by exact sizeOf_lt_of_mem_children (p.walked_prefix.subset (List.getElem_mem i.isLt))

/-- Induction along what a traversal goes on to. -/
theorem walked_induction {motive : Part → Prop}
    (step : ∀ p, (∀ i : Fin p.walked.length, motive p.walked[i]) → motive p) (p : Part) :
    motive p := by
  induction p using Part.induction with
  | step p ih => exact step p fun i => ih _ (p.walked_prefix.subset (List.getElem_mem i.isLt))

/-- What a traversal goes on to is found at the same place. -/
theorem getElem?_children_of_walked {p c : Part} {i : Nat} (h : p.walked[i]? = some c) :
    p.children[i]? = some c := by
  obtain ⟨hi, rfl⟩ := List.getElem?_eq_some_iff.1 h
  exact List.prefix_iff_getElem?.1 p.walked_prefix i hi

/-- **The places ascend**: what stands in a part comes after it, and before what is written later. -/
theorem pairwise_places (p : Part) : p.places.Pairwise (List.Lex (· < ·)) := by
  induction p using Part.walked_induction with
  | step p ih =>
      rw [places, List.pairwise_cons]
      constructor
      · intro place h
        obtain ⟨i, -, h⟩ := List.mem_flatMap.1 h
        obtain ⟨rest, -, rfl⟩ := List.mem_map.1 h
        exact List.Lex.nil
      · -- within one part by induction, between two by the first step
        rw [List.pairwise_flatMap]
        constructor
        · intro i _
          exact List.pairwise_map.2 ((ih i).imp List.Lex.cons)
        · refine (List.pairwise_lt_finRange _).imp fun {i j} hij x hx y hy => ?_
          obtain ⟨x', -, rfl⟩ := List.mem_map.1 hx
          obtain ⟨y', -, rfl⟩ := List.mem_map.1 hy
          exact List.Lex.rel hij

/-- **None is left out.** -/
theorem mem_places_iff {p : Part} {place : List Nat} : place ∈ p.places ↔ p.Walked place := by
  induction place generalizing p with
  | nil => rw [places]; simp [Walked]
  | cons i place ih =>
      rw [places, List.mem_cons, List.mem_flatMap, Walked]
      constructor
      · rintro (h | ⟨j, -, h⟩)
        · cases h
        · obtain ⟨rest, hrest, heq⟩ := List.mem_map.1 h
          obtain ⟨rfl, rfl⟩ := List.cons.inj heq
          exact ⟨p.walked[j], List.getElem?_eq_getElem j.isLt, ih.1 hrest⟩
      · rintro ⟨c, hc, h⟩
        obtain ⟨hi, rfl⟩ := List.getElem?_eq_some_iff.1 hc
        exact Or.inr ⟨⟨i, hi⟩, List.mem_finRange _, List.mem_map.2 ⟨place, ih.2 h, rfl⟩⟩

/-- Along what a traversal goes on to, one part after another. -/
theorem flatMap_walked {β : Type} (g : Part → List β) (p : Part) :
    p.walked.flatMap g = (List.finRange p.walked.length).flatMap fun i => g p.walked[i] := by
  conv => lhs; rw [← List.map_getElem_finRange p.walked]
  rw [List.flatMap_map]
  rfl

/-- What is gathered from all places is gathered from the part itself, and then from the places in
each part that a traversal goes on to, with one more step in front. -/
theorem filterMap_places {β : Type} (g : List Nat → Option β) (p : Part) :
    p.places.filterMap g = (g []).toList ++
      (List.finRange p.walked.length).flatMap fun i =>
        (places p.walked[i]).filterMap fun place => g (i.val :: place) := by
  rw [places, List.filterMap_cons, List.filterMap_flatMap]
  simp only [List.filterMap_map]
  cases g [] <;> rfl

/-! ### What is recorded -/

/-- The node at a place, if it is of one of some kinds. -/
def traced? (kinds : NodeKind → Bool) (p : Part) (place : List Nat) : Option Node :=
  ((p.get? place).bind node?).filter fun n => kinds n.kind

theorem traced?_cons {kinds : NodeKind → Bool} {p c : Part} {i : Nat} (h : p.children[i]? = some c)
    (place : List Nat) : p.traced? kinds (i :: place) = c.traced? kinds place := by
  rw [traced?, traced?, get?_cons h]

theorem traced?_cons_of_walked {kinds : NodeKind → Bool} {p c : Part} {i : Nat}
    (h : p.walked[i]? = some c) (place : List Nat) :
    p.traced? kinds (i :: place) = c.traced? kinds place :=
  traced?_cons (getElem?_children_of_walked h) place

/-- A visitor that records and goes on puts the part itself before what it finds below. -/
theorem answer_trace (kinds : NodeKind → Bool) (p : Part) (below : List Node) :
    p.answer (Visitor.trace kinds fun _ => false) below = (p.traced? kinds []).toList ++ below := by
  rw [answer, traced?, get?, Option.bind_some]
  cases p.node? with
  | none => rfl
  | some n => cases hk : kinds n.kind <;> simp [Visitor.trace, Option.filter, hk]

/-- **A traversal records what it comes to**, each place once, in the order of places. -/
theorem visit_trace (kinds : NodeKind → Bool) (p : Part) :
    p.visit (Visitor.trace kinds fun _ => false) = p.places.filterMap (p.traced? kinds) := by
  induction p using Part.walked_induction with
  | step p ih =>
      rw [visit_eq, answer_trace, filterMap_places, flatMap_walked]
      -- below each part, the places are its own places with one more step in front
      refine congrArg (_ ++ ·) (List.flatMap_congr fun i _ => ?_)
      have hi : p.walked[i.val]? = some p.walked[i] := List.getElem?_eq_getElem i.isLt
      rw [ih i]
      exact List.filterMap_congr fun place _ => (traced?_cons_of_walked hi place).symm

/-! ### Nodes of types -/

end Part

/-- The kinds of types, paths in types among them. -/
def NodeKind.isType : NodeKind → Bool
  | .typePath | .qualifiedPath | .parenTy | .implOneTy | .objectOneTy | .tupleTy | .neverTy
  | .pointerTy | .referenceTy | .arrayTy | .sliceTy | .inferredTy | .functionTy | .implTraitTy
  | .traitObjectTy => true
  | _ => false

/-- Records every type, whether it is a path or not, and goes on everywhere. -/
def Visitor.types : Visitor Node := Visitor.trace NodeKind.isType fun _ => false

namespace Part

/-- The node at a place, if it is a type. -/
def typeNode? (p : Part) (place : List Nat) : Option Node := p.traced? NodeKind.isType place

/-- A place leads into the segments of a qualified path in a type. -/
def InSegment (p : Part) (place : List Nat) : Prop :=
  ∃ before i after q, place = before ++ (i + 1) :: after ∧ p.get? before = some (.qualifiedPath q)

theorem not_inSegment_nil (p : Part) : ¬ p.InSegment [] := by
  rintro ⟨before, i, after, q, h, -⟩
  cases before <;> cases h

theorem inSegment_cons_iff {p c : Part} {i : Nat} (h : p.children[i]? = some c)
    (place : List Nat) :
    p.InSegment (i :: place) ↔
      (∃ q, p = .qualifiedPath q ∧ 0 < i) ∨ c.InSegment place := by
  constructor
  · rintro ⟨before, j, after, q, hplace, hq⟩
    cases before with
    | nil =>
        obtain ⟨rfl, -⟩ := List.cons.inj hplace
        exact Or.inl ⟨q, Option.some.inj hq, Nat.succ_pos j⟩
    | cons k before =>
        obtain ⟨rfl, rfl⟩ := List.cons.inj hplace
        rw [get?, h, Option.bind_some] at hq
        exact Or.inr ⟨before, j, after, q, rfl, hq⟩
  · rintro (⟨q, rfl, hi⟩ | ⟨before, j, after, q, rfl, hq⟩)
    · obtain ⟨j, rfl⟩ := Nat.exists_eq_succ_of_ne_zero hi.ne'
      exact ⟨[], j, place, q, rfl, rfl⟩
    · refine ⟨i :: before, j, after, q, rfl, ?_⟩
      rw [get?, h, Option.bind_some, hq]

/-- What stands in a part is gone on to, unless it is a segment of a qualified path in a type or a
lifetime that an introduced lifetime outlives. -/
theorem walked_or {p c : Part} {i : Nat} (h : p.children[i]? = some c) :
    (p.walked[i]? = some c ∧ ∀ q, p = .qualifiedPath q → i = 0) ∨
      (p.walked[i]? = none ∧ ((∃ q, p = .qualifiedPath q ∧ 0 < i) ∨ ∃ l, c = .lifetime l)) := by
  cases p with
  | qualifiedPath q =>
      obtain ⟨q, segments, site⟩ := q
      cases i with
      | zero => exact Or.inl ⟨h, fun _ _ => rfl⟩
      | succ i => exact Or.inr ⟨rfl, Or.inl ⟨_, rfl, Nat.succ_pos i⟩⟩
  | introduced l =>
      obtain ⟨l, bounds, span⟩ := l
      cases i with
      | zero => exact Or.inl ⟨h, fun _ hq => by cases hq⟩
      | succ i =>
          obtain ⟨l', -, rfl⟩ := List.mem_map.1 (List.mem_of_getElem? h)
          exact Or.inr ⟨rfl, Or.inr ⟨l', rfl⟩⟩
  | _ => exact Or.inl ⟨h, fun _ hq => by cases hq⟩

theorem typeNode?_lifetime (l : Lifetime) (place : List Nat) :
    (lifetime l).typeNode? place = none := by
  cases place <;> rfl

/-- **The nodes of types that a traversal comes to** are those outside the segments of qualified
paths. -/
theorem walked_iff_of_typeNode {p : Part} {place : List Nat}
    (h : (p.typeNode? place).isSome = true) : p.Walked place ↔ ¬ p.InSegment place := by
  induction place generalizing p with
  | nil => exact ⟨fun _ => not_inSegment_nil p, fun _ => trivial⟩
  | cons i place ih =>
      cases hc : p.children[i]? with
      | none =>
          rw [typeNode?, traced?, get?, hc] at h
          cases h
      | some c =>
          have hcons : p.typeNode? (i :: place) = c.typeNode? place := by
            rw [typeNode?, traced?, get?, hc, Option.bind_some]
            rfl
          rw [hcons] at h
          rw [inSegment_cons_iff hc, Walked]
          rcases walked_or hc with ⟨hw, hzero⟩ | ⟨hw, hskipped⟩
          · -- the traversal goes on, so all depends on the rest of the place
            rw [hw]
            constructor
            · rintro ⟨c', hc', hwalked⟩ hin
              obtain rfl : c = c' := Option.some.inj hc'
              rcases hin with ⟨q, hq, hi⟩ | hin
              · exact absurd (hzero q hq) hi.ne'
              · exact (ih h).1 hwalked hin
            · intro hin
              exact ⟨c, rfl, (ih h).2 fun hin' => hin (Or.inr hin')⟩
          · rcases hskipped with hq | ⟨l, rfl⟩
            · rw [hw]
              constructor
              · rintro ⟨c', hc', -⟩
                cases hc'
              · exact fun hin => absurd (Or.inl hq) hin
            · rw [typeNode?_lifetime] at h
              cases h

end Part

/-- **Which nodes of types a traversal of a type records**: those outside the segments of qualified
paths in types, each once, a type before what stands in it and the rest from left to right. -/
theorem Ty.visit_types (t : Ty) :
    ∃ places : List (List Nat), places.Pairwise (List.Lex (· < ·)) ∧
      (∀ place, place ∈ places ↔
        ((Part.ty t).typeNode? place).isSome = true ∧ ¬ (Part.ty t).InSegment place) ∧
      t.visit Visitor.types = places.filterMap (Part.ty t).typeNode? := by
  refine ⟨(Part.ty t).places.filter fun place => ((Part.ty t).typeNode? place).isSome, ?_, ?_, ?_⟩
  · exact (Part.ty t).pairwise_places.filter _
  · intro place
    rw [List.mem_filter, Part.mem_places_iff]
    constructor
    · rintro ⟨hwalked, h⟩
      exact ⟨h, (Part.walked_iff_of_typeNode h).1 hwalked⟩
    · rintro ⟨h, hin⟩
      exact ⟨(Part.walked_iff_of_typeNode h).2 hin, h⟩
  · rw [List.filterMap_filter]
    refine (Part.visit_trace NodeKind.isType (.ty t)).trans (List.filterMap_congr fun place _ => ?_)
    rw [Part.typeNode?]
    cases (Part.ty t).traced? NodeKind.isType place <;> rfl

/-- The type of one name. -/
def Ty.name (name : String) : Ty := .ofIdent ⟨name⟩ default

/-- The type `<T as Tr>::Assoc<U>`. -/
def Ty.projection : Ty :=
  .operand (.qualified ⟨⟨.name "T", some (.ofIdent ⟨"Tr"⟩ default), .dummy⟩,
    [.generic ⟨"Assoc"⟩ ⟨[], [.name "U"], []⟩ .dummy], default⟩)

/-- The argument `U` is a node of `<T as Tr>::Assoc<U>`, and it is not recorded. -/
theorem Ty.visit_types_projection :
    (Part.ty Ty.projection).typeNode? [0, 0, 1, 0, 0, 0, 0] =
        some (.typePath (.ofIdent ⟨"U"⟩ default)) ∧
      .typePath (.ofIdent ⟨"U"⟩ default) ∉ Ty.projection.visit Visitor.types := by
  refine ⟨rfl, fun h => ?_⟩
  have hvisit : Ty.projection.visit Visitor.types =
      [.qualifiedPath ⟨⟨.name "T", some (.ofIdent ⟨"Tr"⟩ default), .dummy⟩,
        [.generic ⟨"Assoc"⟩ ⟨[], [.name "U"], []⟩ .dummy], default⟩,
        .typePath (.ofIdent ⟨"T"⟩ default), .typePath (.ofIdent ⟨"Tr"⟩ default)] := rfl
  rw [hvisit] at h
  simp [TypePath.ofIdent] at h

end SurfaceTree
