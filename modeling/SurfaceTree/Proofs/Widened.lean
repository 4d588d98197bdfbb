/-
Switching on more options.

A condition without negations that holds goes on to hold when more is switched on.  So a pattern
whose conditions are all of this kind loses less under more options: less is refuted, and what was
there stays.  More is also looked at, because less is in the way; hence a configuration that can be
made under more options can be made under fewer, but not the other way round.

The argument does not need conditions at all.  It needs that everything that is refuted under the
one options is refuted under the others, which is `Config.Milder`.

Main definitions:

* `Config.Options.Within` — all that is switched on is switched on in other options too;
* `Config.Predicate.isNegationFree` — there is no negation in a condition;
* `Config.Milder` — other options refute no more of some attributes.

Main results:

* `Config.Predicate.holds_of_within` — conditions without negations go on to hold;
* `Pattern.examined_subset_of_milder` — under milder options more is looked at;
* `Pattern.liveAttrs?_of_milder` — under milder options everything stays that stayed;
* `Pattern.isLive_of_within` — **switching on more takes nothing away**.
-/

import SurfaceTree.Proofs.Configured
import SurfaceTree.Proofs.Live

set_option relaxedAutoImplicit false
set_option autoImplicit false

namespace SurfaceTree

namespace Config

/-! ### Conditions -/

/-- All that is switched on is switched on in other options too. -/
structure Options.Within (o₁ o₂ : Options) : Prop where
  /-- The names. -/
  isSet : ∀ name, o₁.isSet name → o₂.isSet name
  /-- The values of names. -/
  hasPair : ∀ key value, o₁.hasPair key value → o₂.hasPair key value

namespace Predicate

mutual

/-- There is no negation in a condition, however deep. -/
def isNegationFree : Predicate → Bool
  | .name _ | .pair _ _ => true
  | .all ps | .any ps => areNegationFree ps
  | .not _ => false

/-- There is no negation in the conditions of a list. -/
def areNegationFree : List Predicate → Bool
  | [] => true
  | p :: ps => p.isNegationFree && areNegationFree ps

end

variable {o₁ o₂ : Options}

mutual

/-- A condition without negations that holds goes on to hold when more is switched on. -/
theorem holds_of_within (ho : o₁.Within o₂) {p : Predicate} (hp : p.isNegationFree = true)
    (h : p.holds o₁ = true) : p.holds o₂ = true := by
  match p with
  | .name n => exact ho.isSet n h
  | .pair k v => exact ho.hasPair k v h
  | .all ps =>
      have hps : areNegationFree ps = true := hp
      exact allHold_of_within ho hps h
  | .any ps =>
      have hps : areNegationFree ps = true := hp
      exact anyHolds_of_within ho hps h
  | .not p => cases hp

theorem allHold_of_within (ho : o₁.Within o₂) {ps : List Predicate}
    (hps : areNegationFree ps = true) (h : allHold o₁ ps = true) : allHold o₂ ps = true := by
  match ps with
  | [] => rfl
  | p :: ps =>
      obtain ⟨hp, hps⟩ := Bool.and_eq_true_iff.1 hps
      obtain ⟨h, hs⟩ := Bool.and_eq_true_iff.1 h
      exact Bool.and_eq_true_iff.2 ⟨holds_of_within ho hp h, allHold_of_within ho hps hs⟩

theorem anyHolds_of_within (ho : o₁.Within o₂) {ps : List Predicate}
    (hps : areNegationFree ps = true) (h : anyHolds o₁ ps = true) : anyHolds o₂ ps = true := by
  match ps with
  | [] => cases h
  | p :: ps =>
      obtain ⟨hp, hps⟩ := Bool.and_eq_true_iff.1 hps
      rcases Bool.or_eq_true_iff.1 h with h | h
      · exact Bool.or_eq_true_iff.2 (Or.inl (holds_of_within ho hp h))
      · exact Bool.or_eq_true_iff.2 (Or.inr (anyHolds_of_within ho hps h))

end

end Predicate

/-! ### Milder options -/

/-- What `o₂` refutes among some attributes is refuted by `o₁` as well. -/
def Milder (o₁ o₂ : Options) (as : List Attribute) : Prop :=
  ∀ a ∈ as, refutes o₂ a = true → refutes o₁ a = true

variable {o₁ o₂ : Options} {as bs : List Attribute}

theorem Milder.subset (h : Milder o₁ o₂ bs) (hs : as ⊆ bs) : Milder o₁ o₂ as :=
  fun a ha => h a (hs ha)

theorem Milder.any_refutes (h : Milder o₁ o₂ as) (ha : as.any (refutes o₂) = true) :
    as.any (refutes o₁) = true := by
  obtain ⟨a, ha, hr⟩ := List.any_eq_true.1 ha
  exact List.any_eq_true.2 ⟨a, ha, h a ha hr⟩

theorem Milder.examined_subset (h : Milder o₁ o₂ as) :
    Config.examined o₁ as ⊆ Config.examined o₂ as := by
  induction as with
  | nil => exact List.Subset.refl []
  | cons a as ih =>
      have has : Milder o₁ o₂ as := h.subset (List.subset_cons_self a as)
      -- where the milder options stop, the others stop too
      refine List.cons_subset_cons a ?_
      cases h₁ : refutes o₁ a with
      | true => exact List.nil_subset _
      | false =>
          have h₂ : refutes o₂ a = false := by
            cases h₂ : refutes o₂ a with
            | false => rfl
            | true => rw [h a List.mem_cons_self h₂] at h₁; cases h₁
          rw [h₂]
          exact ih has

theorem Milder.left? (h : Milder o₁ o₂ as) (ha : Config.left? o₁ as = some bs) :
    Config.left? o₂ as = some bs := by
  unfold Config.left? at ha ⊢
  cases h₁ : as.any (refutes o₁) with
  | true => simp [h₁] at ha
  | false =>
      cases h₂ : as.any (refutes o₂) with
      | true => rw [h.any_refutes h₂] at h₁; cases h₁
      | false => simpa [h₁] using ha

/-- Attributes that state conditions without negations are refuted by no more than before when more
is switched on. -/
theorem milder_of_within (ho : o₁.Within o₂)
    (has : ∀ a ∈ as, ∀ c, Predicate.ofAttribute a = .ok (some c) → c.isNegationFree = true) :
    Milder o₁ o₂ as := by
  intro a ha h₂
  unfold refutes at h₂ ⊢
  cases hc : Predicate.ofAttribute a with
  | error e => simp [hc] at h₂
  | ok c =>
      cases c with
      | none => simp [hc] at h₂
      | some c =>
          simp only [hc, Bool.not_eq_true'] at h₂ ⊢
          cases h₁ : c.holds o₁ with
          | false => rfl
          | true => rw [Predicate.holds_of_within ho (has a ha c hc) h₁] at h₂; cases h₂

end Config

open Config

/-! ### Patterns -/

variable {o₁ o₂ : Options} {p : Pattern}

/-- Under milder options more is looked at. -/
theorem Pattern.examined_subset_of_milder (h : Milder o₁ o₂ p.attributes) :
    p.examined o₁ ⊆ p.examined o₂ := by
  refine Pattern.collect_subset fun path e ho => ⟨?_, ?_, ?_⟩
  · intro f hf
    have hm : Milder o₁ o₂ f.attrs := h.subset (ho.attrs_subset hf)
    rw [atField_examining, atField_examining]
    split
    · exact List.Subset.refl []
    · exact hm.examined_subset
  · intro f hf h₁
    have hm : Milder o₁ o₂ f.attrs := h.subset (ho.attrs_subset hf)
    rw [enters_examining, Bool.not_eq_true'] at h₁ ⊢
    cases h₂ : f.attrs.any (refutes o₂) with
    | false => rfl
    | true => rw [hm.any_refutes h₂] at h₁; cases h₁
  · have hm : Milder o₁ o₂ e.restAttrs := h.subset ho.restAttrs_subset
    rw [atRest_examining, atRest_examining]
    split
    · exact hm.examined_subset
    · exact List.Subset.refl []

/-- Under milder options a way that was left open stays open. -/
theorem Pattern.opens_of_milder (h : Milder o₁ o₂ p.attributes) {s : Step}
    (hs : p.opens o₁ s = true) : p.opens o₂ s = true := by
  cases s with
  | field i =>
      obtain ⟨bs, hbs⟩ := Option.isSome_iff_exists.1 hs
      obtain ⟨as, has, hleft⟩ := Option.bind_eq_some_iff.1 hbs
      have hm : Milder o₁ o₂ as := h.subset (Pattern.liveAttrs?_subset has)
      exact Option.isSome_iff_exists.2 ⟨bs, Option.bind_eq_some_iff.2 ⟨as, has, hm.left? hleft⟩⟩
  | _ => rfl

/-- **Under milder options everything stays that stayed**, with the same attributes. -/
theorem Pattern.liveAttrs?_of_milder (h : Milder o₁ o₂ p.attributes) {steps : List Step}
    {c : Carrier} {as : List Attribute} (has : (p.settle o₁).liveAttrs? steps c = some as) :
    (p.settle o₂).liveAttrs? steps c = some as := by
  induction steps generalizing p with
  | nil =>
      rw [Pattern.liveAttrs?_settle_nil] at has ⊢
      obtain ⟨bs, hbs, hleft⟩ := Option.bind_eq_some_iff.1 has
      have hm : Milder o₁ o₂ bs := h.subset (Pattern.liveAttrs?_subset hbs)
      exact Option.bind_eq_some_iff.2 ⟨bs, hbs, hm.left? hleft⟩
  | cons s steps ih =>
      rw [Pattern.liveAttrs?_settle_cons] at has ⊢
      cases hs : p.opens o₁ s with
      | false => simp [hs] at has
      | true =>
          rw [hs, if_pos rfl] at has
          obtain ⟨q, hq, has⟩ := Option.bind_eq_some_iff.1 has
          have hsub : q.attributes ⊆ p.attributes :=
            Pattern.attributes_subset_of_mem (Pattern.mem_children_iff.2 ⟨s, hq⟩)
          -- the way stays open, and below it the same holds of fewer attributes
          rw [Pattern.opens_of_milder h hs, if_pos rfl, hq]
          exact ih (h.subset hsub) has

/-- **Switching on more takes nothing away** from a pattern whose conditions are without negations:
what can be configured under `o₂` can be configured under `o₁`, which switches on less, and every
field and every rest marker that is there afterwards is there under `o₂` as well. -/
theorem Pattern.isLive_of_within {q₂ : Pattern} {n₂ : Stats}
    (hp : ∀ a ∈ p.attributes, ∀ c, Predicate.ofAttribute a = .ok (some c) →
      c.isNegationFree = true)
    (ho : o₁.Within o₂) (h₂ : p.configure o₂ = .ok (q₂, n₂)) :
    ∃ q₁ n₁, p.configure o₁ = .ok (q₁, n₁) ∧
      ∀ steps c, q₁.isLive steps c = true → q₂.isLive steps c = true := by
  have hm : Milder o₁ o₂ p.attributes := milder_of_within ho hp
  obtain ⟨hsound₂, rfl, -⟩ := Pattern.configure_eq_ok_iff.1 h₂
  have hsound₁ : ∀ a ∈ p.examined o₁, ∃ r, Predicate.ofAttribute a = .ok r := fun a ha =>
    hsound₂ a (Pattern.examined_subset_of_milder hm ha)
  refine ⟨p.settle o₁, (p.losses o₁).sum, ?_, fun steps c hlive => ?_⟩
  · exact Pattern.configure_eq_ok_iff.2 ⟨hsound₁, rfl, rfl⟩
  · obtain ⟨as, has⟩ := Pattern.isLive_iff.1 hlive
    exact Pattern.isLive_iff.2 ⟨as, Pattern.liveAttrs?_of_milder hm has⟩

/-- With `test` switched on beside `unix`, the rest marker of the sample stays, and so does all that
stays without it. -/
theorem Pattern.isLive_sample :
    Pattern.sampleOnUnix.isLive [.field 0] (.field 2) = true ∧
      Pattern.sampleOnUnix.isLive [] .rest = false ∧
      (Pattern.sample.settle ⟨{"test", "unix"}, ∅⟩).isLive [] .rest = true ∧
      ∀ steps c, Pattern.sampleOnUnix.isLive steps c = true →
        (Pattern.sample.settle ⟨{"test", "unix"}, ∅⟩).isLive steps c = true := by
  have hfree : ∀ a ∈ Pattern.sample.attributes, ∀ c, Predicate.ofAttribute a = .ok (some c) →
      c.isNegationFree = true := by
    intro a ha c hc
    have ha : a ∈ [.condition "unix", .word "inline", .condition "windows", .word "cfg",
        .word "inline", .condition "windows", .word "cfg", .condition "test"] := ha
    simp only [List.mem_cons, List.not_mem_nil, or_false] at ha
    rcases ha with rfl | rfl | rfl | rfl | rfl | rfl | rfl | rfl <;> cases hc <;> rfl
  have hwithin : Options.Within ⟨{"unix"}, ∅⟩ ⟨{"test", "unix"}, ∅⟩ :=
    ⟨fun name h => by simp_all [Options.isSet], fun key value h => h⟩
  have hmore : Pattern.sample.configure ⟨{"test", "unix"}, ∅⟩ =
      .ok (Pattern.sample.settle ⟨{"test", "unix"}, ∅⟩, ⟨2, 0⟩) := rfl
  obtain ⟨q, n, hq, hlive⟩ := Pattern.isLive_of_within hfree hwithin hmore
  rw [Pattern.configure_sample] at hq
  obtain ⟨rfl, -⟩ := Prod.mk.inj (Except.ok.inj hq)
  exact ⟨rfl, rfl, rfl, hlive⟩

end SurfaceTree
