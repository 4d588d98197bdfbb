/-
What a traversal of patterns reaches.

A traversal and a configuration are recursions of their own over the same trees, and neither calls
the other.  What they have in common are the sub-patterns of a pattern: a visitor that only answers
at patterns hears at each of them the answers from its sub-patterns and nothing else.  So a visitor
that records struct patterns records those that occur, and in a configured pattern all of these are
settled.

Main definitions:

* `Visitor.OnPatterns` — a visitor has something to say at patterns only;
* `Visitor.structs` — records the struct patterns.

Main results:

* `Pattern.visit_eq_children` — what a visitor of patterns answers at a pattern;
* `Pattern.mem_visit_structs_iff` — **the struct patterns that are recorded are those that occur**;
* `Pattern.structs_of_configured` — those of a configured pattern are settled.
-/

import SurfaceTree.Proofs.Related
import SurfaceTree.Proofs.Settled

set_option relaxedAutoImplicit false
set_option autoImplicit false

namespace SurfaceTree

open Config

/-! ### Visitors of patterns -/

/-- A visitor that only has something to say at patterns. -/
def Visitor.OnPatterns {ε : Type} (v : Visitor ε) : Prop :=
  ∀ n : Node, (∀ p, n ≠ .pattern p) → ∀ below, v n below = below

section

variable {ε : Type} {v : Visitor ε}

theorem Visitor.OnPatterns.eq_nil (h : v.OnPatterns) (n : Node) (hn : n.InType) : v n [] = [] := by
  refine h n (fun p hp => ?_) []
  rw [hp] at hn
  exact hn

theorem Pattern.visitAll_eq_flatMap (v : Visitor ε) (ps : List Pattern) :
    Pattern.visitAll v ps = ps.flatMap (Pattern.visit v) := by
  induction ps with
  | nil => rfl
  | cons p ps ih => rw [Pattern.visitAll, ih, List.flatMap_cons]

theorem Pattern.visitOption_eq_flatMap (v : Visitor ε) (p : Option Pattern) :
    Pattern.visitOption v p = p.toList.flatMap (Pattern.visit v) := by
  cases p <;> simp [Pattern.visitOption]

theorem Field.visit_eq (h : v.OnPatterns) (f : Field) :
    f.visit v = f.pattern?.toList.flatMap (Pattern.visit v) := by
  have hf : ∀ below, v (.field f) below = below := h (.field f) fun p hp => by cases hp
  cases f with
  | shorthand x r m as s => rw [Field.visit, hf]; rfl
  | _ => rw [Field.visit, hf, Pattern.visitOption_eq_flatMap]; rfl

theorem Elements.visit_eq (h : v.OnPatterns) (e : Elements) :
    e.visit v = e.patterns.flatMap (Pattern.visit v) := by
  obtain ⟨fields, hasRest, restAttrs⟩ := e
  rw [Elements.visit, Elements.patterns]
  induction fields with
  | nil => rfl
  | cons f fs ih =>
      rw [Field.visitAll, Field.visit_eq h, ih, List.filterMap_cons]
      cases f.pattern? <;> simp

theorem Items.visitOption_eq (h : v.OnPatterns) (style : ItemsStyle) (items : Option Items) :
    Items.visitOption v style items =
      (items.toList.flatMap Items.patterns).flatMap (Pattern.visit v) := by
  cases items with
  | none => rfl
  | some i =>
      have hi : ∀ below, v (.items style i) below = below :=
        h (.items style i) fun p hp => by cases hp
      cases i <;>
        simp [Items.visitOption, Items.visit, hi, Items.patterns, Pattern.visitAll_eq_flatMap]

/-- **What a visitor of patterns answers** at a pattern depends on its answers at the sub-patterns
only. -/
theorem Pattern.visit_eq_children (h : v.OnPatterns) (p : Pattern) :
    p.visit v = v (.pattern p) (p.children.flatMap (Pattern.visit v)) := by
  have hbound : ∀ b : RangeBound, b.visit v = [] := by
    intro b
    rw [RangeBound.visit_eq h.eq_nil]
    exact h (.rangeBound b) (fun p hp => by cases hp) []
  cases p with
  | ident x r m bind s => rw [Pattern.visit, Pattern.visitOption_eq_flatMap, children]
  | reference q a m s => rw [Pattern.visit, children, List.flatMap_singleton]
  | grouped q s => rw [Pattern.visit, children, List.flatMap_singleton]
  | struct path e =>
      rw [Pattern.visit, ExprPath.visit_eq_nil h.eq_nil, Elements.visit_eq h, children,
        List.nil_append]
  | tupleStruct path items =>
      rw [Pattern.visit, ExprPath.visit_eq_nil h.eq_nil, Items.visitOption_eq h, children,
        List.nil_append]
  | tuple items s => rw [Pattern.visit, Items.visitOption_eq h, children]
  | slice ps s => rw [Pattern.visit, Pattern.visitAll_eq_flatMap, children]
  | range l u e s => rw [Pattern.visit, hbound l, hbound u]; rfl
  | literal value minus s => rfl
  | wildcard s => rfl

end

/-! ### Struct patterns -/

/-- Records every struct pattern and goes on everywhere. -/
def Visitor.structs : Visitor Node :=
  Visitor.trace (fun kind => kind = .structPattern) fun _ => false

theorem Visitor.structs_pattern (p : Pattern) (below : List Node) :
    structs (.pattern p) below =
      if p.kind = .structPattern then .pattern p :: below else below := by
  by_cases hk : p.kind = .structPattern <;> simp [structs, trace, Node.kind, hk]

theorem Visitor.onPatterns_structs : Visitor.OnPatterns structs := by
  intro n hn below
  have hk : n.kind ≠ .structPattern := by
    cases n with
    | pattern p => exact absurd rfl (hn p)
    | rangeBound b => cases b <;> exact nofun
    | field f => cases f <;> exact nofun
    | items style i => cases style <;> cases i <;> exact nofun
    | ty t =>
        cases t with
        | operand t => cases t <;> exact nofun
        | _ => exact nofun
    | _ => exact nofun
  simp only [structs, trace, decide_eq_true_eq, if_neg hk]

/-- **The struct patterns that are recorded are those that occur.** -/
theorem Pattern.mem_visit_structs_iff {node : Node} {p : Pattern} :
    node ∈ p.visit Visitor.structs ↔
      ∃ path e, node = .pattern (.struct path e) ∧ Pattern.Occurs (.struct path e) p := by
  induction p using Pattern.induction with
  | step p ih =>
      have hbelow : node ∈ p.children.flatMap (Pattern.visit Visitor.structs) ↔
          ∃ c ∈ p.children, ∃ path e,
            node = .pattern (.struct path e) ∧ Pattern.Occurs (.struct path e) c := by
        rw [List.mem_flatMap]
        exact exists_congr fun c => and_congr_right fun hc => ih c hc
      rw [Pattern.visit_eq_children Visitor.onPatterns_structs, Visitor.structs_pattern]
      constructor
      · intro h
        -- the pattern itself, or something below it
        have hcases : (p.kind = .structPattern ∧ node = .pattern p) ∨
            node ∈ p.children.flatMap (Pattern.visit Visitor.structs) := by
          split at h
          · rename_i hk
            exact (List.mem_cons.1 h).imp_left fun hn => ⟨hk, hn⟩
          · exact Or.inr h
        rcases hcases with ⟨hk, rfl⟩ | h
        · cases p with
          | struct path e => exact ⟨path, e, rfl, Pattern.Occurs.self⟩
          | _ => cases hk
        · obtain ⟨c, hc, path, e, rfl, ho⟩ := hbelow.1 h
          exact ⟨path, e, rfl, Pattern.Occurs.deeper hc ho⟩
      · rintro ⟨path, e, rfl, ho⟩
        cases ho with
        | self => exact List.mem_cons_self
        | deeper hc ho =>
            have h := hbelow.2 ⟨_, hc, path, e, rfl, ho⟩
            split
            · exact List.mem_cons_of_mem (.pattern p) h
            · exact h

/-- **What a traversal finds in a configured pattern**: every struct pattern that it records is
settled, and it records the struct pattern at every position. -/
theorem Pattern.structs_of_configured {o : Options} {p q : Pattern} {n : Stats}
    (h : p.configure o = .ok (q, n)) :
    (∀ node ∈ q.visit Visitor.structs, ∃ path e, node = .pattern (.struct path e) ∧
      (∀ f ∈ e.fields, f.isStripped = false →
        ∀ a ∈ f.attrs, a.hasName Predicate.attributeName = false) ∧
      (e.hasRest = true → ∀ a ∈ e.restAttrs, a.hasName Predicate.attributeName = false)) ∧
    (∀ steps path e, q.get? steps = some (.struct path e) →
      .pattern (.struct path e) ∈ q.visit Visitor.structs) := by
  constructor
  · intro node hnode
    obtain ⟨path, e, rfl, ho⟩ := Pattern.mem_visit_structs_iff.1 hnode
    have he : e.IsSettled := Pattern.isSettled_of_configure h path e ho
    exact ⟨path, e, rfl, he.fields, he.rest⟩
  · intro steps path e hs
    exact Pattern.mem_visit_structs_iff.2
      ⟨path, e, rfl, Pattern.occurs_iff_get?.2 ⟨steps, hs⟩⟩

/-- The traversal of the sample records its outer and its inner braces. -/
theorem Pattern.structs_of_sample :
    Pattern.sample.configure ⟨{"unix"}, ∅⟩ = .ok (sampleOnUnix, ⟨2, 1⟩) ∧
      (sampleOnUnix.visit Visitor.structs).length = 2 ∧
      ∀ node ∈ sampleOnUnix.visit Visitor.structs, ∃ path e,
        node = .pattern (.struct path e) ∧
          (∀ f ∈ e.fields, f.isStripped = false →
            ∀ a ∈ f.attrs, a.hasName Predicate.attributeName = false) ∧
          (e.hasRest = true → ∀ a ∈ e.restAttrs, a.hasName Predicate.attributeName = false) :=
  ⟨configure_sample, rfl, (Pattern.structs_of_configured configure_sample).1⟩

end SurfaceTree
