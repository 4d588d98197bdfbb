/-
What a traversal does not come to.

A traversal goes on to a first stretch of what stands in a part, and it stops short of the rest in
two kinds of parts only: the segments of a qualified path in a type, and the lifetimes that an
introduced lifetime outlives.  So a place is skipped exactly if the way to it leads through one of
the two.  Patterns and fields never stand there, and so a traversal of a pattern comes to all of
them.  Lifetimes do: a traversal of a type misses those that introduced lifetimes outlive.

Main definitions:

* `Part.Passes` — on the way to a place, a step of some kind is made;
* `Part.IsSkipped`, `Part.IsOutlived` — the way leads to what a traversal does not go on to, and
  to a lifetime that an introduced lifetime outlives;
* `Part.patternOrField?`, `Part.lifetime?` — what stands at a place;
* `Part.HasPlainSegments` — the segments of qualified paths in types are names alone.

Main results:

* `Part.walked_iff` — **a traversal comes to all places that are not skipped**;
* `Part.isSkipped_iff` — the two ways to be skipped;
* `Pattern.visit_patterns` — **a traversal of a pattern records every pattern and every field**;
* `Ty.visit_lifetimes` — **which lifetimes a traversal of a type records**;
* `Ty.visit_lifetimes_binder` — one that it does not record.
-/

import SurfaceTree.Proofs.Places

set_option relaxedAutoImplicit false
set_option autoImplicit false

namespace SurfaceTree

namespace Part

variable {p c : Part} {i : Nat} {place : List Nat} {step step' : Part → Nat → Prop}

/-! ### Steps on the way -/

/-- On the way to a place, a step of some kind is made out of a part. -/
def Passes (step : Part → Nat → Prop) (p : Part) (place : List Nat) : Prop :=
  ∃ before i after q, place = before ++ i :: after ∧ p.get? before = some q ∧ step q i

theorem not_passes_nil (step : Part → Nat → Prop) (p : Part) : ¬ p.Passes step [] := by
  rintro ⟨before, i, after, q, h, -⟩
  cases before <;> cases h

theorem passes_cons_iff (h : p.children[i]? = some c) :
    p.Passes step (i :: place) ↔ step p i ∨ c.Passes step place := by
  constructor
  · rintro ⟨before, j, after, q, hplace, hq, hstep⟩
    cases before with
    | nil =>
        obtain ⟨rfl, -⟩ := List.cons.inj hplace
        obtain rfl : p = q := Option.some.inj hq
        exact Or.inl hstep
    | cons k before =>
        obtain ⟨rfl, hrest⟩ := List.cons.inj hplace
        rw [get?_cons h] at hq
        exact Or.inr ⟨before, j, after, q, hrest, hq, hstep⟩
  · rintro (hstep | ⟨before, j, after, q, rfl, hq, hstep⟩)
    · exact ⟨[], i, place, p, rfl, rfl, hstep⟩
    · exact ⟨i :: before, j, after, q, rfl, by rwa [get?_cons h], hstep⟩

/-- On the way to a part only those steps are made that lead to one. -/
theorem passes_congr (h : (p.get? place).isSome = true)
    (hiff : ∀ q i, i < q.children.length → (step q i ↔ step' q i)) :
    p.Passes step place ↔ p.Passes step' place := by
  induction place generalizing p with
  | nil => exact iff_of_false (not_passes_nil step p) (not_passes_nil step' p)
  | cons i place ih =>
      cases hc : p.children[i]? with
      | none =>
          rw [get?, hc] at h
          cases h
      | some c =>
          rw [get?_cons hc] at h
          have hi : i < p.children.length := (List.getElem?_eq_some_iff.1 hc).1
          rw [passes_cons_iff hc, passes_cons_iff hc, hiff p i hi, ih h]

theorem passes_or_iff :
    p.Passes (fun q i => step q i ∨ step' q i) place ↔
      p.Passes step place ∨ p.Passes step' place := by
  constructor
  · rintro ⟨before, i, after, q, hplace, hq, hstep | hstep⟩
    · exact Or.inl ⟨before, i, after, q, hplace, hq, hstep⟩
    · exact Or.inr ⟨before, i, after, q, hplace, hq, hstep⟩
  · rintro (⟨before, i, after, q, hplace, hq, hstep⟩ | ⟨before, i, after, q, hplace, hq, hstep⟩)
    · exact ⟨before, i, after, q, hplace, hq, Or.inl hstep⟩
    · exact ⟨before, i, after, q, hplace, hq, Or.inr hstep⟩

/-! ### Skipped places -/

/-- A place leads to what a traversal does not go on to. -/
def IsSkipped (p : Part) (place : List Nat) : Prop :=
  p.Passes (fun q i => q.walked.length ≤ i) place

/-- A place leads to a lifetime that an introduced lifetime outlives. -/
def IsOutlived (p : Part) (place : List Nat) : Prop :=
  p.Passes (fun q i => (∃ l, q = .introduced l) ∧ 0 < i) place

/-- **A traversal comes to all places that are not skipped.** -/
theorem walked_iff (h : (p.get? place).isSome = true) : p.Walked place ↔ ¬ p.IsSkipped place := by
  induction place generalizing p with
  | nil => exact iff_of_true trivial (not_passes_nil _ p)
  | cons i place ih =>
      cases hc : p.children[i]? with
      | none =>
          rw [get?, hc] at h
          cases h
      | some c =>
          rw [get?_cons hc] at h
          rw [IsSkipped, passes_cons_iff hc, not_or, Nat.not_le, Walked]
          constructor
          · rintro ⟨c', hc', hwalked⟩
            obtain rfl : c = c' :=
              Option.some.inj (hc.symm.trans (getElem?_children_of_walked hc'))
            exact ⟨(List.getElem?_eq_some_iff.1 hc').1, (ih h).1 hwalked⟩
          · rintro ⟨hi, hskipped⟩
            have hwalked : p.walked[i]? = some p.walked[i] := List.getElem?_eq_getElem hi
            obtain rfl : c = p.walked[i] :=
              Option.some.inj (hc.symm.trans (getElem?_children_of_walked hwalked))
            exact ⟨p.walked[i], hwalked, (ih h).2 hskipped⟩

theorem inSegment_iff_passes :
    p.InSegment place ↔ p.Passes (fun q i => (∃ x, q = .qualifiedPath x) ∧ 0 < i) place := by
  constructor
  · rintro ⟨before, i, after, x, hplace, hx⟩
    exact ⟨before, i + 1, after, _, hplace, hx, ⟨x, rfl⟩, Nat.succ_pos i⟩
  · rintro ⟨before, i, after, _, hplace, hq, ⟨x, rfl⟩, hi⟩
    obtain ⟨j, rfl⟩ := Nat.exists_eq_succ_of_ne_zero hi.ne'
    exact ⟨before, j, after, x, hplace, hq⟩

/-- What a traversal does not go on to are the segments of a qualified path in a type and the
lifetimes that an introduced lifetime outlives. -/
theorem length_walked_le_iff {q : Part} (h : i < q.children.length) :
    q.walked.length ≤ i ↔
      ((∃ x, q = .qualifiedPath x) ∧ 0 < i) ∨ ((∃ l, q = .introduced l) ∧ 0 < i) := by
  cases q with
  | qualifiedPath x =>
      have hlen : (qualifiedPath x).walked.length = 1 := by cases x; rfl
      rw [hlen]
      refine ⟨fun hi => Or.inl ⟨⟨x, rfl⟩, hi⟩, ?_⟩
      rintro (⟨-, hi⟩ | ⟨⟨l, hl⟩, -⟩)
      · exact hi
      · cases hl
  | introduced l =>
      have hlen : (introduced l).walked.length = 1 := by cases l; rfl
      rw [hlen]
      refine ⟨fun hi => Or.inr ⟨⟨l, rfl⟩, hi⟩, ?_⟩
      rintro (⟨⟨x, hx⟩, -⟩ | ⟨-, hi⟩)
      · cases hx
      · exact hi
  | _ => simpa [walked] using h

/-- **A place is skipped in two ways.** -/
theorem isSkipped_iff (h : (p.get? place).isSome = true) :
    p.IsSkipped place ↔ p.InSegment place ∨ p.IsOutlived place := by
  rw [IsSkipped, passes_congr h fun q i hi => length_walked_le_iff hi, passes_or_iff,
    inSegment_iff_passes, IsOutlived]

/-! ### Patterns and fields -/

/-- A part that is a type or stands in one. -/
def IsOfType : Part → Prop
  | pattern _ | rangeBound _ | elements _ | field _ | items _ _ => False
  | _ => True

/-- Patterns and fields do not stand in types. -/
theorem isOfType_of_mem_children (h : c ∈ p.children) (hp : p.IsOfType) : c.IsOfType := by
  have hall : ∀ c ∈ p.children, c.IsOfType := by
    cases p with
    | pattern _ | rangeBound _ | elements _ | field _ | items _ _ => exact hp.elim
    | ty q | operand q | qualifiedExprPath q | exprPath q | exprSegment q | args q | binding q
    | qself q | typePath q | typeSegment q | qualifiedPath q | traitBound q | typeBound q | param q
    | arraySize q | lifetime q | introduced q =>
        cases q <;> simp [children, IsOfType, or_imp, forall_and]
  exact hall c h

theorem isOfType_of_get? (h : p.get? place = some c) (hp : p.IsOfType) : c.IsOfType := by
  induction place generalizing p with
  | nil =>
      obtain rfl : p = c := Option.some.inj h
      exact hp
  | cons i place ih =>
      obtain ⟨d, hd, hc⟩ := Option.bind_eq_some_iff.1 h
      exact ih hc (isOfType_of_mem_children (List.mem_of_getElem? hd) hp)

/-- A traversal comes to everything that is no part of a type. -/
theorem walked_of_not_isOfType (h : p.get? place = some c) (hc : ¬ c.IsOfType) :
    p.Walked place := by
  have hsome : (p.get? place).isSome = true := by rw [h]; rfl
  -- both ways to be skipped lead through a part of a type
  have hthrough : ∀ step : Part → Nat → Prop, (∀ q i, step q i → q.IsOfType) →
      ¬ p.Passes step place := by
    rintro step hstep ⟨before, i, after, q, rfl, hq, hs⟩
    rw [get?_append, hq, Option.bind_some] at h
    exact hc (isOfType_of_get? h (hstep q i hs))
  rw [walked_iff hsome, isSkipped_iff hsome, inSegment_iff_passes, not_or]
  constructor
  · refine hthrough _ fun q i hs => ?_
    obtain ⟨⟨x, rfl⟩, -⟩ := hs
    trivial
  · refine hthrough _ fun q i hs => ?_
    obtain ⟨⟨l, rfl⟩, -⟩ := hs
    trivial

/-! ### What is recorded -/

/-- What is recorded of one traversal, if it is known which of the places with a node on them the
traversal comes to. -/
theorem visit_trace_met {kinds : NodeKind → Bool} {found : List Nat → Option Node}
    (Met : List Nat → Prop) (hfound : ∀ place, p.traced? kinds place = found place)
    (hmet : ∀ place, (found place).isSome = true → (p.Walked place ↔ Met place)) :
    ∃ places : List (List Nat), places.Pairwise (List.Lex (· < ·)) ∧
      (∀ place, place ∈ places ↔ (found place).isSome = true ∧ Met place) ∧
      p.visit (Visitor.trace kinds fun _ => false) = places.filterMap found := by
  refine ⟨p.places.filter fun place => (found place).isSome, p.pairwise_places.filter _, ?_, ?_⟩
  · intro place
    rw [List.mem_filter, mem_places_iff, and_comm]
    exact and_congr_right (hmet place)
  · rw [visit_trace, List.filterMap_filter]
    refine List.filterMap_congr fun place _ => ?_
    rw [hfound]
    cases found place <;> rfl

/-- The pattern or the field at a place, a slot being a field like any other. -/
def patternOrField? (p : Part) (place : List Nat) : Option Node :=
  match p.get? place with
  | some (pattern q) => some (.pattern q)
  | some (field f) => some (.field f)
  | _ => none

end Part

/-- The kinds of patterns. -/
def NodeKind.isPattern : NodeKind → Bool
  | .literalPattern | .identPattern | .wildcardPattern | .rangePattern | .referencePattern
  | .structPattern | .tupleStructPattern | .tuplePattern | .groupedPattern | .slicePattern => true
  | _ => false

/-- The kinds of fields. -/
def NodeKind.isField : NodeKind → Bool
  | .indexedField | .namedField | .shorthandField => true
  | _ => false

/-- Records every pattern and every field, and goes on everywhere. -/
def Visitor.patterns : Visitor Node :=
  Visitor.trace (fun kind => kind.isPattern || kind.isField) fun _ => false

namespace Part

variable {p c : Part} {i : Nat} {place : List Nat}

theorem traced?_patterns (p : Part) (place : List Nat) :
    p.traced? (fun kind => kind.isPattern || kind.isField) place = p.patternOrField? place := by
  rw [traced?, patternOrField?]
  cases p.get? place with
  | none => rfl
  | some c =>
      cases c with
      | pattern q | rangeBound q | field q | ty q | operand q => cases q <;> rfl
      | items style is => cases style <;> cases is <;> rfl
      | _ => rfl

theorem walked_of_patternOrField? (h : (p.patternOrField? place).isSome = true) :
    p.Walked place := by
  rw [patternOrField?] at h
  split at h
  next q hq => exact walked_of_not_isOfType hq id
  next f hf => exact walked_of_not_isOfType hf id
  · cases h

/-- Nothing stands in a slot. -/
theorem get?_of_isStripped {f : Field} (h : p.get? place = some (field f))
    (hf : f.isStripped = true) (i : Nat) (rest : List Nat) :
    p.get? (place ++ i :: rest) = none := by
  rw [get?_append, h, Option.bind_some, get?, children, Field.pattern?_of_isStripped hf]
  rfl

end Part

/-- **A traversal of a pattern records every pattern and every field**, each once, a node before
what stands in it and the rest from left to right.  A slot is recorded like any other field, and
nothing is recorded below it. -/
theorem Pattern.visit_patterns (p : Pattern) :
    ∃ places : List (List Nat), places.Pairwise (List.Lex (· < ·)) ∧
      (∀ place, place ∈ places ↔ ((Part.pattern p).patternOrField? place).isSome = true) ∧
      (∀ place f, (Part.pattern p).get? place = some (.field f) → f.isStripped = true →
        ∀ i rest, place ++ i :: rest ∉ places) ∧
      p.visit Visitor.patterns = places.filterMap (Part.pattern p).patternOrField? := by
  obtain ⟨places, hascending, hmem, hvisit⟩ :=
    Part.visit_trace_met (fun _ => True) (Part.traced?_patterns (.pattern p)) fun place h =>
      iff_of_true (Part.walked_of_patternOrField? h) trivial
  simp only [and_true] at hmem
  refine ⟨places, hascending, hmem, fun place f hplace hf i rest hin => ?_, hvisit⟩
  have hsome := (hmem _).1 hin
  rw [Part.patternOrField?, Part.get?_of_isStripped hplace hf] at hsome
  cases hsome

/-- The pattern `S { x: _, y: [_] }` after `x: _` has been stripped. -/
def Pattern.slotted : Pattern :=
  .struct (.ofIdent ⟨"S"⟩ .dummy)
    ⟨[.named ⟨"x"⟩ none [] .dummy,
      .named ⟨"y"⟩ (some (.slice [.wildcard .dummy] .dummy)) [] .dummy], false, []⟩

/-- The slot is recorded, and nothing below it. -/
theorem Pattern.visit_patterns_slotted :
    (Pattern.slotted.visit Visitor.patterns).map Node.kind =
      [.structPattern, .namedField, .namedField, .slicePattern, .wildcardPattern] ∧
    ∃ places : List (List Nat), [1, 0] ∈ places ∧ (∀ i rest, [1, 0] ++ i :: rest ∉ places) ∧
      Pattern.slotted.visit Visitor.patterns =
        places.filterMap (Part.pattern .slotted).patternOrField? := by
  refine ⟨by decide, ?_⟩
  obtain ⟨places, -, hmem, hslot, hvisit⟩ := Pattern.visit_patterns .slotted
  exact ⟨places, (hmem [1, 0]).2 rfl, hslot [1, 0] _ rfl rfl, hvisit⟩

/-! ### Lifetimes -/

/-- A name alone. -/
def TypeSegment.isPlain : TypeSegment → Bool
  | .plain _ _ => true
  | _ => false

namespace Part

variable {p c : Part} {i : Nat} {place : List Nat}

/-- The lifetime at a place. -/
def lifetime? (p : Part) (place : List Nat) : Option Lifetime :=
  match p.get? place with
  | some (lifetime l) => some l
  | _ => none

/-- The segments of qualified paths in types are names alone. -/
def HasPlainSegments (p : Part) : Prop :=
  ∀ place q, p.get? place = some (.qualifiedPath q) → ∀ s ∈ q.segments, s.isPlain = true

/-- The segments of a part that is a qualified path. -/
def ownSegments : Part → List TypeSegment
  | qualifiedPath q => q.segments
  | _ => []

theorem hasPlainSegments_iff :
    p.HasPlainSegments ↔
      (∀ s ∈ p.ownSegments, s.isPlain = true) ∧ ∀ c ∈ p.children, c.HasPlainSegments := by
  constructor
  · intro h
    constructor
    · intro s hs
      cases p with
      | qualifiedPath q => exact h [] q rfl s hs
      | _ => cases hs
    · intro c hc place q hq
      obtain ⟨i, hi⟩ := List.mem_iff_getElem?.1 hc
      exact h (i :: place) q (by rwa [get?_cons hi])
  · rintro ⟨hown, hbelow⟩ place q hq
    cases place with
    | nil =>
        obtain rfl : p = qualifiedPath q := Option.some.inj hq
        exact hown
    | cons i place =>
        obtain ⟨c, hc, hq⟩ := Option.bind_eq_some_iff.1 hq
        exact hbelow c (List.mem_of_getElem? hc) place q hq

instance decidableHasPlainSegments (p : Part) : Decidable p.HasPlainSegments :=
  have below : ∀ c : {c // c ∈ p.children}, Decidable c.1.HasPlainSegments := fun c =>
    decidableHasPlainSegments c.1
  decidable_of_iff
    ((∀ s ∈ p.ownSegments, s.isPlain = true) ∧ ∀ c ∈ p.children.attach, c.1.HasPlainSegments)
    (by rw [hasPlainSegments_iff]; simp)
termination_by sizeOf p
decreasing_by exact sizeOf_lt_of_mem_children c.2

/-- Among the parts only lifetimes are recorded as lifetimes. -/
theorem eq_lifetime_of_kind {n : Node} (h : p.node? = some n) (hk : n.kind = .lifetime) :
    ∃ l, p = lifetime l ∧ n = .lifetime l := by
  cases p with
  | pattern q | rangeBound q | field q => cases q <;> cases h <;> cases hk
  | items style q => cases style <;> cases q <;> cases h <;> cases hk
  | ty t | operand t => cases t <;> cases h <;> cases hk
  | lifetime l => exact ⟨l, rfl, (Option.some.inj h).symm⟩
  | _ => cases h <;> cases hk

theorem traced?_lifetimes (p : Part) (place : List Nat) :
    p.traced? (fun kind => kind = .lifetime) place = (p.lifetime? place).map .lifetime := by
  rw [traced?, lifetime?]
  cases p.get? place with
  | none => rfl
  | some c =>
      cases c with
      | pattern q | rangeBound q | field q | ty q | operand q => cases q <;> rfl
      | items style is => cases style <;> cases is <;> rfl
      | _ => rfl

/-- Nothing stands in a lifetime, so it makes no difference whether a traversal goes on there. -/
theorem visit_only_lifetime (p : Part) :
    p.visit (Visitor.only .lifetime) =
      p.visit (Visitor.trace (fun kind => kind = .lifetime) fun _ => false) := by
  induction p using Part.induction with
  | step p ih =>
      have hbelow : p.walked.flatMap (visit (Visitor.only .lifetime)) =
          p.walked.flatMap (visit (Visitor.trace (fun kind => kind = .lifetime) fun _ => false)) :=
        List.flatMap_congr fun c hc => ih c (p.walked_prefix.subset hc)
      rw [visit_eq, visit_eq, hbelow, answer, answer]
      cases hn : p.node? with
      | none => rfl
      | some n =>
          by_cases hk : n.kind = .lifetime
          · obtain ⟨l, rfl, rfl⟩ := eq_lifetime_of_kind hn hk
            rfl
          · simp [Visitor.only, Visitor.trace, hk]

/-- No lifetime stands in a segment that is a name alone. -/
theorem HasPlainSegments.not_inSegment (h : p.HasPlainSegments)
    (hl : (p.lifetime? place).isSome = true) : ¬ p.InSegment place := by
  rintro ⟨before, i, after, ⟨q, segments, site⟩, rfl, hq⟩
  rw [lifetime?, get?_append, hq, Option.bind_some, get?, children, List.getElem?_cons_succ,
    List.getElem?_map] at hl
  cases hs : segments[i]? with
  | none =>
      rw [hs] at hl
      cases hl
  | some s =>
      have hplain : s.isPlain = true := h before _ hq s (List.mem_of_getElem? hs)
      rw [hs] at hl
      cases s with
      | plain name span => cases after <;> cases hl
      | _ => cases hplain

/-- **The lifetimes that a traversal comes to** are those that no introduced lifetime outlives. -/
theorem HasPlainSegments.walked_iff_of_lifetime (h : p.HasPlainSegments)
    (hl : (p.lifetime? place).isSome = true) : p.Walked place ↔ ¬ p.IsOutlived place := by
  have hsome : (p.get? place).isSome = true := by
    rw [lifetime?] at hl
    cases hc : p.get? place with
    | none =>
        rw [hc] at hl
        cases hl
    | some c => rfl
  rw [walked_iff hsome, isSkipped_iff hsome, or_iff_right (h.not_inSegment hl)]

end Part

/-- **Which lifetimes a traversal of a type records**, if the segments of its qualified paths are
names alone: all but those that introduced lifetimes outlive, each once and from left to right. -/
theorem Ty.visit_lifetimes {t : Ty} (h : (Part.ty t).HasPlainSegments) :
    ∃ places : List (List Nat), places.Pairwise (List.Lex (· < ·)) ∧
      (∀ place, place ∈ places ↔
        ((Part.ty t).lifetime? place).isSome = true ∧ ¬ (Part.ty t).IsOutlived place) ∧
      t.visit (Visitor.only .lifetime) =
        places.filterMap fun place => ((Part.ty t).lifetime? place).map .lifetime := by
  obtain ⟨places, hascending, hmem, hvisit⟩ :=
    Part.visit_trace_met _ (Part.traced?_lifetimes (.ty t)) fun place hl =>
      h.walked_iff_of_lifetime (Option.isSome_map.symm.trans hl)
  refine ⟨places, hascending, fun place => ?_, ?_⟩
  · rw [hmem, Option.isSome_map]
  · exact (Part.visit_only_lifetime (.ty t)).trans hvisit

/-- The lifetime of some name. -/
def Lifetime.ofName (name : String) : Lifetime := ⟨.named ⟨name⟩, .dummy⟩

/-- The type `for<'a: 'b + 'c> fn(&'d <T as Tr>::Out)`. -/
def Ty.binder : Ty :=
  .operand (.function [⟨.ofName "a", [.ofName "b", .ofName "c"], .dummy⟩] {}
    [.unnamed (.operand (.reference (some (.ofName "d")) false
      (.qualified ⟨⟨.name "T", some (.ofIdent ⟨"Tr"⟩ default), .dummy⟩,
        [.plain ⟨"Out"⟩ .dummy], default⟩) default)) .dummy] false none default)

/-- The introduced lifetime and that of the reference are recorded. -/
theorem Ty.visit_lifetimes_recorded :
    (Part.ty .binder).HasPlainSegments ∧
      (∃ places : List (List Nat), places.Pairwise (List.Lex (· < ·)) ∧
        (∀ place, place ∈ places ↔
          ((Part.ty .binder).lifetime? place).isSome = true ∧
            ¬ (Part.ty .binder).IsOutlived place) ∧
        Ty.binder.visit (Visitor.only .lifetime) =
          places.filterMap fun place => ((Part.ty .binder).lifetime? place).map .lifetime) ∧
      Ty.binder.visit (Visitor.only .lifetime) =
        [.lifetime (.ofName "a"), .lifetime (.ofName "d")] :=
  have h : (Part.ty .binder).HasPlainSegments := by decide +kernel
  ⟨h, Ty.visit_lifetimes h, rfl⟩

/-- The lifetime `'b` stands in the type, and it is not recorded. -/
theorem Ty.visit_lifetimes_binder :
    (Part.ty .binder).HasPlainSegments ∧
      (Part.ty .binder).lifetime? [0, 0, 1] = some (.ofName "b") ∧
      .lifetime (.ofName "b") ∉ Ty.binder.visit (Visitor.only .lifetime) := by
  refine ⟨by decide +kernel, rfl, fun h => ?_⟩
  have hvisit : Ty.binder.visit (Visitor.only .lifetime) =
      [.lifetime (.ofName "a"), .lifetime (.ofName "d")] := rfl
  rw [hvisit] at h
  simp [Lifetime.ofName] at h

end SurfaceTree
