/-
Settled patterns: those in which a configuration finds nothing to do.

A condition that holds is taken away together with its attribute, and one that does not takes the
field or the rest marker away.  So a configured pattern states no condition on anything that is
still there.  Conditions stay behind on the slots of stripped fields and beside rest markers that
were absent from the start, whether they make sense or not, but no configuration looks at those.

Main definitions:

* `Elements.IsSettled`, `Pattern.IsSettled` — nothing that is there states a condition, between the
  braces of one pattern, and in a whole pattern.

Main results:

* `Pattern.isSettled_settle` — what a configuration leaves is settled;
* `Pattern.IsSettled.configure_eq` — a settled pattern is configured without failure, change or
  loss, under any options;
* `Pattern.configure_of_configured` — **one configuration settles a pattern for good**.
-/

import SurfaceTree.Proofs.Configured

set_option relaxedAutoImplicit false
set_option autoImplicit false

namespace SurfaceTree

open Config

/-! ### Attributes that state no condition -/

namespace Config

theorem hasName_of_mem_settled {as : List Attribute} {a : Attribute} (h : a ∈ settled as) :
    a.hasName Predicate.attributeName = false := by
  simpa using (List.mem_filter.1 h).2

theorem settled_eq_self {as : List Attribute}
    (h : ∀ a ∈ as, a.hasName Predicate.attributeName = false) : settled as = as :=
  List.filter_eq_self.2 fun a ha => by rw [h a ha, Bool.not_false]

theorem ofAttribute_of_hasName {a : Attribute} (h : a.hasName Predicate.attributeName = false) :
    Predicate.ofAttribute a = .ok none := by
  simp [Predicate.ofAttribute, h]

theorem any_refutes_of_hasName {as : List Attribute} (o : Options)
    (h : ∀ a ∈ as, a.hasName Predicate.attributeName = false) : as.any (refutes o) = false := by
  refine List.any_eq_false.2 fun a ha => ?_
  rw [refutes, ofAttribute_of_hasName (h a ha)]
  exact Bool.false_ne_true

end Config

/-! ### Settled patterns -/

/-- Nothing between the braces states a condition, except slots and absent rest markers. -/
structure Elements.IsSettled (e : Elements) : Prop where
  /-- No live field states a condition. -/
  fields : ∀ f ∈ e.fields, f.isStripped = false →
    ∀ a ∈ f.attrs, a.hasName Predicate.attributeName = false
  /-- If the rest marker is present, it states no condition. -/
  rest : e.hasRest = true → ∀ a ∈ e.restAttrs, a.hasName Predicate.attributeName = false

/-- **Nothing in the pattern states a condition**, except slots and absent rest markers. -/
def Pattern.IsSettled (p : Pattern) : Prop :=
  ∀ path e, Pattern.Occurs (.struct path e) p → e.IsSettled

theorem Field.hasName_of_settle (o : Options) {f : Field} (h : (f.settle o).isStripped = false) :
    ∀ a ∈ (f.settle o).attrs, a.hasName Predicate.attributeName = false := by
  unfold Field.settle at h ⊢
  split at h
  · rename_i hs
    rw [hs] at h
    cases h
  · split at h
    · -- a field that loses its content is no longer live
      rw [Field.isStripped_strip] at h
      cases h
    · rename_i hs hr
      rw [if_neg hs, if_neg hr, Field.attrs_withAttrs]
      exact fun a => hasName_of_mem_settled

/-- What is to be left between the braces is settled. -/
theorem Elements.isSettled_settle (o : Options) (e : Elements) : (e.settle o).IsSettled := by
  constructor
  · intro f hf hs
    rw [Elements.fields_settle] at hf
    obtain ⟨g, -, rfl⟩ := List.mem_map.1 hf
    exact Field.hasName_of_settle o hs
  · intro hr a ha
    obtain ⟨fields, hasRest, restAttrs⟩ := e
    cases hasRest with
    | false => cases hr
    | true =>
        cases hany : restAttrs.any (refutes o) with
        | true => simp only [Elements.settle, hany] at hr; cases hr
        | false =>
            simp only [Elements.settle, hany] at ha
            exact hasName_of_mem_settled ha

/-- Settling a field brings in no pattern. -/
theorem Field.pattern?_settle (o : Options) {f : Field} {c : Pattern}
    (h : (f.settle o).pattern? = some c) : f.pattern? = some c := by
  unfold Field.settle at h
  split at h
  · exact h
  · split at h
    · rw [Field.pattern?_strip] at h
      cases h
    · rwa [Field.pattern?_withAttrs] at h

theorem Elements.mem_patterns_of_settle (o : Options) (e : Elements) :
    ∀ c ∈ (e.settle o).patterns, c ∈ e.patterns := by
  intro c hc
  obtain ⟨f, hf, hfc⟩ := List.mem_filterMap.1 hc
  rw [Elements.fields_settle] at hf
  obtain ⟨g, hg, rfl⟩ := List.mem_map.1 hf
  exact List.mem_filterMap.2 ⟨g, hg, Field.pattern?_settle o hfc⟩

/-- **What a configuration leaves is settled.** -/
theorem Pattern.isSettled_settle (o : Options) (p : Pattern) : (p.settle o).IsSettled := by
  intro path e ho
  obtain ⟨e', rfl⟩ :=
    Pattern.exists_of_occurs_mapElements (Elements.settle o) (Elements.mem_patterns_of_settle o) ho
  exact Elements.isSettled_settle o e'

/-! ### Nothing to do -/

/-- A settled struct pattern has no field to settle and no rest marker to settle. -/
theorem Elements.IsSettled.settle_eq {e : Elements} (h : e.IsSettled) (o : Options) :
    e.settle o = e := by
  have hfields : e.fields.map (Field.settle o) = e.fields := by
    refine (List.map_congr_left fun f hf => ?_).trans (List.map_id e.fields)
    cases hs : f.isStripped with
    | true => rw [Field.settle, if_pos hs, id]
    | false =>
        have hattrs := h.fields f hf hs
        rw [Field.settle, hs, any_refutes_of_hasName o hattrs, settled_eq_self hattrs]
        exact f.withAttrs_attrs
  obtain ⟨fields, hasRest, restAttrs⟩ := e
  -- the attributes of an absent rest marker are not touched, whatever they are
  cases hasRest with
  | false => rw [Elements.settle, hfields]; rfl
  | true =>
      have hattrs := h.rest rfl
      rw [Elements.settle, hfields, any_refutes_of_hasName o hattrs, settled_eq_self hattrs]
      rfl

namespace Pattern.IsSettled

variable {p : Pattern}

theorem settle_eq (h : p.IsSettled) (o : Options) : p.settle o = p :=
  Pattern.mapElements_eq_self _ fun path e ho => (h path e ho).settle_eq o

theorem losses_eq (h : p.IsSettled) (o : Options) : p.losses o = [] := by
  refine Pattern.collect_eq_nil _ fun path e ho => ⟨fun f hf => ?_, ?_⟩
  · rw [atField_losing]
    cases hs : f.isStripped with
    | true => rfl
    | false => rw [any_refutes_of_hasName o ((h path e ho).fields f hf hs)]; rfl
  · cases hr : e.hasRest with
    | false => rfl
    | true =>
        change (if true && e.restAttrs.any (refutes o) then [Stats.oneRest] else []) = []
        rw [any_refutes_of_hasName o ((h path e ho).rest hr)]
        rfl

/-- No attribute that is looked at states a condition. -/
theorem hasName_of_mem_examined (h : p.IsSettled) (o : Options) :
    ∀ a ∈ p.examined o, a.hasName Predicate.attributeName = false := by
  intro a ha
  obtain ⟨path, e, ho, ⟨f, hf, ha⟩ | ha⟩ := Pattern.exists_of_mem_collect _ ha
  · rw [atField_examining] at ha
    cases hs : f.isStripped with
    | true => simp [hs] at ha
    | false =>
        rw [hs] at ha
        exact (h path e ho).fields f hf hs a (Config.examined_subset o f.attrs ha)
  · cases hr : e.hasRest with
    | false => rw [hr] at ha; cases ha
    | true =>
        rw [hr] at ha
        exact (h path e ho).rest hr a (Config.examined_subset o e.restAttrs ha)

/-- **A settled pattern is configured without failure, change or loss.** -/
theorem configure_eq (h : p.IsSettled) (o : Options) : p.configure o = .ok (p, 0) := by
  have hd : firstDefect? (p.examined o) = none :=
    firstDefect?_eq_none_iff.2 fun a ha =>
      ⟨none, ofAttribute_of_hasName (h.hasName_of_mem_examined o a ha)⟩
  rw [Pattern.configure_eq, verdict_eq_ok_iff]
  exact ⟨hd, by rw [h.settle_eq o, h.losses_eq o]; rfl⟩

end Pattern.IsSettled

/-- What a configuration leaves is settled. -/
theorem Pattern.isSettled_of_configure {o : Options} {p q : Pattern} {n : Stats}
    (h : p.configure o = .ok (q, n)) : q.IsSettled := by
  rw [Pattern.configure_eq, verdict_eq_ok_iff] at h
  obtain ⟨rfl, -⟩ := Prod.mk.inj h.2
  exact Pattern.isSettled_settle o p

/-- **One configuration settles a pattern for good**: another, under whatever options, succeeds,
leaves the pattern as it is and counts nothing. -/
theorem Pattern.configure_of_configured {o₁ o₂ : Options} {p q : Pattern} {n : Stats}
    (h : p.configure o₁ = .ok (q, n)) : q.configure o₂ = .ok (q, 0) :=
  (Pattern.isSettled_of_configure h).configure_eq o₂

/-- The sample is settled for `windows` too, although `d` and a slot keep what makes no sense. -/
theorem Pattern.sampleOnUnix_configured :
    Pattern.sample.configure ⟨{"unix"}, ∅⟩ = .ok (sampleOnUnix, ⟨2, 1⟩) ∧
      sampleOnUnix.configure ⟨{"windows"}, {("feature", {"std"})}⟩ = .ok (sampleOnUnix, 0) :=
  ⟨configure_sample, Pattern.configure_of_configured configure_sample⟩

end SurfaceTree
