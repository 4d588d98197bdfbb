/-
Visitors that halt.

A visitor halts at a node if it records the node and does not let the traversal go on below it.  Two
visitors that record the same and differ in where they halt are compared place by place: what the
one that halts leaves out is what the other finds below a node at which the first one halts, and
nothing else.  It does not matter how many such nodes there are above a place, since the traversal
ends at the first of them.

Main definitions:

* `Visitor.haltsAt` — the kinds of nodes at which a visitor halts;
* `Part.IsOutermost` — at a place stands a node of one of some kinds, and above it none;
* `Part.IsBelow` — a place is below such a node.

Main results:

* `Part.visit_halting` — **what a visitor that halts records**;
* `Part.visit_sublist` — one that halts more often records less, in the same order;
* `Part.visit_pruned` — the two together, against the visitor that never halts.
-/

import SurfaceTree.Proofs.Places

set_option relaxedAutoImplicit false
set_option autoImplicit false

namespace SurfaceTree

/-- The kinds of nodes at which a visitor halts: only where it records can it halt. -/
def Visitor.haltsAt (recorded halting : NodeKind → Bool) : NodeKind → Bool := fun kind =>
  recorded kind && halting kind

namespace Part

/-! ### Below a node -/

/-- At a place stands a node of one of some kinds, and above it there is none. -/
def IsOutermost (kinds : NodeKind → Bool) (p : Part) (place : List Nat) : Prop :=
  (p.traced? kinds place).isSome = true ∧
    ∀ before i after, place = before ++ i :: after → p.traced? kinds before = none

/-- **A place is below an outermost node** of one of some kinds. -/
def IsBelow (kinds : NodeKind → Bool) (p : Part) (place : List Nat) : Prop :=
  ∃ before i after, place = before ++ i :: after ∧ p.IsOutermost kinds before

variable {kinds : NodeKind → Bool} {p c : Part} {i : Nat} {place : List Nat}

theorem not_isBelow_nil (kinds : NodeKind → Bool) (p : Part) : ¬ p.IsBelow kinds [] := by
  rintro ⟨before, i, after, h, -⟩
  cases before <;> cases h

theorem isOutermost_nil_iff : p.IsOutermost kinds [] ↔ (p.traced? kinds []).isSome = true := by
  refine ⟨And.left, fun h => ⟨h, fun before i after hplace => ?_⟩⟩
  cases before <;> cases hplace

theorem isOutermost_cons_iff (h : p.children[i]? = some c) :
    p.IsOutermost kinds (i :: place) ↔ p.traced? kinds [] = none ∧ c.IsOutermost kinds place := by
  constructor
  · rintro ⟨hnode, habove⟩
    rw [traced?_cons h] at hnode
    refine ⟨habove [] i place rfl, hnode, fun before j after hplace => ?_⟩
    rw [← traced?_cons h]
    exact habove (i :: before) j after (congrArg (i :: ·) hplace)
  · rintro ⟨hself, hnode, habove⟩
    refine ⟨by rwa [traced?_cons h], fun before j after hplace => ?_⟩
    cases before with
    | nil => exact hself
    | cons k before =>
        obtain ⟨rfl, hrest⟩ := List.cons.inj hplace
        rw [traced?_cons h]
        exact habove before j after hrest

/-- A place in what stands in a part is below a node if the part is one, or else if it is below one
there. -/
theorem isBelow_cons_iff (h : p.children[i]? = some c) :
    p.IsBelow kinds (i :: place) ↔
      (p.traced? kinds []).isSome = true ∨ c.IsBelow kinds place := by
  constructor
  · rintro ⟨before, j, after, hplace, hout⟩
    cases before with
    | nil => exact Or.inl hout.1
    | cons k before =>
        obtain ⟨rfl, hrest⟩ := List.cons.inj hplace
        exact Or.inr ⟨before, j, after, hrest, ((isOutermost_cons_iff h).1 hout).2⟩
  · intro hor
    cases hself : p.traced? kinds [] with
    | some n =>
        exact ⟨[], i, place, rfl, isOutermost_nil_iff.2 (by rw [hself]; rfl)⟩
    | none =>
        rw [hself] at hor
        obtain ⟨before, j, after, rfl, hout⟩ := hor.resolve_left Bool.false_ne_true
        exact ⟨i :: before, j, after, rfl, (isOutermost_cons_iff h).2 ⟨hself, hout⟩⟩

theorem isBelow_cons_of_none (h : p.children[i]? = none) :
    p.IsBelow kinds (i :: place) ↔ (p.traced? kinds []).isSome = true := by
  constructor
  · rintro ⟨before, j, after, hplace, hout⟩
    cases before with
    | nil => exact hout.1
    | cons k before =>
        -- there is no way down, and so no node there
        obtain ⟨rfl, -⟩ := List.cons.inj hplace
        have hnone : p.traced? kinds (i :: before) = none := by rw [traced?, get?, h]; rfl
        rw [IsOutermost, hnone] at hout
        cases hout.1
  · exact fun hself => ⟨[], i, place, rfl, isOutermost_nil_iff.2 hself⟩

instance decidableIsBelow (kinds : NodeKind → Bool) :
    (p : Part) → (place : List Nat) → Decidable (p.IsBelow kinds place)
  | p, [] => .isFalse (not_isBelow_nil kinds p)
  | p, i :: place =>
      match h : p.children[i]? with
      | none => decidable_of_iff _ (isBelow_cons_of_none h).symm
      | some c =>
          have : Decidable (c.IsBelow kinds place) := decidableIsBelow kinds c place
          decidable_of_iff _ (isBelow_cons_iff h).symm

/-- Below nodes of more kinds there are more places. -/
theorem IsBelow.mono {kinds' : NodeKind → Bool}
    (hk : ∀ kind, kinds kind = true → kinds' kind = true) (h : p.IsBelow kinds place) :
    p.IsBelow kinds' place := by
  have hself : ∀ q : Part, (q.traced? kinds []).isSome = true →
      (q.traced? kinds' []).isSome = true := by
    intro q hq
    obtain ⟨n, hn⟩ := Option.isSome_iff_exists.1 hq
    obtain ⟨hnode, hkind⟩ := Option.filter_eq_some_iff.1 hn
    exact Option.isSome_iff_exists.2 ⟨n, Option.filter_eq_some_iff.2 ⟨hnode, hk _ hkind⟩⟩
  induction place generalizing p with
  | nil => exact absurd h (not_isBelow_nil kinds p)
  | cons i place ih =>
      cases hc : p.children[i]? with
      | none =>
          rw [isBelow_cons_of_none hc] at h ⊢
          exact hself p h
      | some c =>
          rw [isBelow_cons_iff hc] at h ⊢
          exact h.imp (hself p) ih

/-! ### What a visitor that halts records -/

/-- What a visitor records of a place, unless it halts above. -/
def kept? (recorded halting : NodeKind → Bool) (p : Part) (place : List Nat) : Option Node :=
  if p.IsBelow (Visitor.haltsAt recorded halting) place then none else p.traced? recorded place

variable {recorded halting : NodeKind → Bool}

theorem kept?_nil (recorded halting : NodeKind → Bool) (p : Part) :
    p.kept? recorded halting [] = p.traced? recorded [] :=
  if_neg (not_isBelow_nil (Visitor.haltsAt recorded halting) p)

/-- Below a part at which the visitor halts it records nothing. -/
theorem kept?_of_halts (h : (p.traced? (Visitor.haltsAt recorded halting) []).isSome = true)
    (i : Nat) (place : List Nat) : p.kept? recorded halting (i :: place) = none :=
  if_pos ⟨[], i, place, rfl, isOutermost_nil_iff.2 h⟩

/-- Below any other part it records what it records there. -/
theorem kept?_cons (h : p.children[i]? = some c)
    (hself : p.traced? (Visitor.haltsAt recorded halting) [] = none) (place : List Nat) :
    p.kept? recorded halting (i :: place) = c.kept? recorded halting place := by
  have hiff : p.IsBelow (Visitor.haltsAt recorded halting) (i :: place) ↔
      c.IsBelow (Visitor.haltsAt recorded halting) place := by
    rw [isBelow_cons_iff h, hself]
    exact or_iff_right Bool.false_ne_true
  rw [kept?, kept?, traced?_cons h]
  exact if_congr hiff rfl rfl

/-- Where a visitor halts, it answers with the node alone. -/
theorem answer_of_halts {n : Node} (h : p.traced? (Visitor.haltsAt recorded halting) [] = some n)
    (below : List Node) :
    p.answer (Visitor.trace recorded halting) below = (p.traced? recorded []).toList := by
  obtain ⟨hnode, hkind⟩ := Option.filter_eq_some_iff.1 h
  obtain ⟨hr, hh⟩ := Bool.and_eq_true_iff.1 hkind
  have hself : p.node? = some n := hnode
  simp [answer, traced?, get?, hself, Visitor.trace, hr, hh, Option.filter]

/-- Where a visitor does not halt, it answers like one that never does. -/
theorem answer_of_not_halts (h : p.traced? (Visitor.haltsAt recorded halting) [] = none)
    (below : List Node) :
    p.answer (Visitor.trace recorded halting) below = (p.traced? recorded []).toList ++ below := by
  rw [← answer_trace, answer, answer]
  cases hself : p.node? with
  | none => rfl
  | some n =>
      have hkind : Visitor.haltsAt recorded halting n.kind = false := by
        simpa [traced?, get?, hself, Option.filter] using h
      cases hr : recorded n.kind with
      | false => simp [Visitor.trace, hr]
      | true =>
          have hh : halting n.kind = false := by simpa [Visitor.haltsAt, hr] using hkind
          simp [Visitor.trace, hr, hh]

/-- **What a visitor that halts records**: what it comes to without going below a node at which it
halts. -/
theorem visit_halting (recorded halting : NodeKind → Bool) (p : Part) :
    p.visit (Visitor.trace recorded halting) = p.places.filterMap (p.kept? recorded halting) := by
  induction p using Part.walked_induction with
  | step p ih =>
      rw [visit_eq, filterMap_places, kept?_nil]
      cases hself : p.traced? (Visitor.haltsAt recorded halting) [] with
      | some n =>
          have hhalts : (p.traced? (Visitor.haltsAt recorded halting) []).isSome = true := by
            rw [hself]
            rfl
          have hbelow : ((List.finRange p.walked.length).flatMap fun i =>
              (places p.walked[i]).filterMap fun place =>
                p.kept? recorded halting (i.val :: place)) = [] := by
            refine List.flatMap_eq_nil_iff.2 fun i _ => List.filterMap_eq_nil_iff.2 fun place _ => ?_
            exact kept?_of_halts hhalts i place
          rw [answer_of_halts hself, hbelow, List.append_nil]
      | none =>
          rw [answer_of_not_halts hself, flatMap_walked]
          refine congrArg (_ ++ ·) (List.flatMap_congr fun i _ => ?_)
          have hi : p.children[i.val]? = some p.walked[i] :=
            getElem?_children_of_walked (List.getElem?_eq_getElem i.isLt)
          rw [ih i]
          exact List.filterMap_congr fun place _ => (kept?_cons hi hself place).symm

/-- The same, said of the list of places: all that are below a node at which the visitor halts are
left out. -/
theorem visit_halting_filter (recorded halting : NodeKind → Bool) (p : Part) :
    p.visit (Visitor.trace recorded halting) =
      (p.places.filter fun place =>
        ¬ p.IsBelow (Visitor.haltsAt recorded halting) place).filterMap (p.traced? recorded) := by
  rw [visit_halting, List.filterMap_filter]
  refine List.filterMap_congr fun place _ => ?_
  rw [kept?]
  by_cases h : p.IsBelow (Visitor.haltsAt recorded halting) place <;> simp [h]

/-- One that halts more often records less, in the same order. -/
theorem visit_sublist {halting' : NodeKind → Bool}
    (h : ∀ kind, halting kind = true → halting' kind = true) (recorded : NodeKind → Bool)
    (p : Part) :
    (p.visit (Visitor.trace recorded halting')).Sublist
      (p.visit (Visitor.trace recorded halting)) := by
  have hk : ∀ kind, Visitor.haltsAt recorded halting kind = true →
      Visitor.haltsAt recorded halting' kind = true := by
    intro kind hkind
    obtain ⟨hr, hh⟩ := Bool.and_eq_true_iff.1 hkind
    exact Bool.and_eq_true_iff.2 ⟨hr, h kind hh⟩
  rw [visit_halting_filter, visit_halting_filter]
  refine List.Sublist.filterMap _ (List.monotone_filter_right _ fun place hplace => ?_)
  rw [decide_eq_true_eq] at hplace ⊢
  exact fun hbelow => hplace (hbelow.mono hk)

/-- **Halting prunes.**  Of two visitors that record the same kinds of nodes, one that never halts
records what stands at the places that it comes to, and one that halts records the same without
what stands below an outermost node at which it halts.  So what it records is part of the other's
record in the same order, and a visitor that halts at more kinds of nodes records part of that.

The part may be a pattern or a type, whose traversals are `Pattern.visit` and `Ty.visit`. -/
theorem visit_pruned (recorded halting : NodeKind → Bool) (p : Part) :
    p.visit (Visitor.trace recorded fun _ => false) = p.places.filterMap (p.traced? recorded) ∧
    p.visit (Visitor.trace recorded halting) =
      (p.places.filter fun place =>
        ¬ p.IsBelow (Visitor.haltsAt recorded halting) place).filterMap (p.traced? recorded) ∧
    (p.visit (Visitor.trace recorded halting)).Sublist
      (p.visit (Visitor.trace recorded fun _ => false)) ∧
    ∀ halting' : NodeKind → Bool, (∀ kind, halting kind = true → halting' kind = true) →
      (p.visit (Visitor.trace recorded halting')).Sublist
        (p.visit (Visitor.trace recorded halting)) := by
  refine ⟨visit_trace recorded p, visit_halting_filter recorded halting p, ?_, ?_⟩
  · exact visit_sublist (fun kind h => Bool.noConfusion h) recorded p
  · exact fun halting' h => visit_sublist h recorded p

end Part

/-- The pattern `[a @ (b), _]`. -/
def Pattern.binding : Pattern :=
  .slice [.ident ⟨"a"⟩ false false (some (.grouped (.simple ⟨"b"⟩ .dummy) .dummy)) .dummy,
    .wildcard .dummy] .dummy

/-- A visitor that halts at bindings does not come to `(b)` and `b`, and one that halts at slices as
well stops at once. -/
theorem Part.visit_pruned_binding :
    (∀ kind : NodeKind, decide (kind = .identPattern) = true →
      (kind = .identPattern || kind = .slicePattern) = true) ∧
    ((Part.pattern .binding).visit
        (Visitor.trace (fun _ => true) fun kind => kind = .identPattern)).map Node.render =
      ["[a @ (b), _]", "a @ (b)", "_"] ∧
    ((Part.pattern .binding).visit (Visitor.trace (fun _ => true) fun kind =>
        kind = .identPattern || kind = .slicePattern)).map Node.render = ["[a @ (b), _]"] ∧
    ((Part.pattern .binding).visit (Visitor.trace (fun _ => true) fun kind =>
        kind = .identPattern || kind = .slicePattern)).Sublist
      ((Part.pattern .binding).visit
        (Visitor.trace (fun _ => true) fun kind => kind = .identPattern)) := by
  have h : ∀ kind : NodeKind, decide (kind = .identPattern) = true →
      (kind = .identPattern || kind = .slicePattern) = true := by
    intro kind hkind
    rw [hkind, Bool.true_or]
  refine ⟨h, by decide, by decide, ?_⟩
  exact (Part.visit_pruned (fun _ => true) _ (.pattern .binding)).2.2.2 _ h

end SurfaceTree
