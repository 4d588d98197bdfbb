/-
What a configuration depends on.

Options are only ever asked whether the flags that conditions mention are switched on.  So two
options that give the same answers for these flags refute the same attributes, and then all three
parts of a configuration come out the same: what is looked at, what is left and what is lost.  All
else that is switched on makes no difference, and a configured pattern may be kept for whoever asks
again with the same flags on.

Main definitions:

* `Config.Options.isOn` — what a flag says is switched on;
* `Config.Predicate.flags`, `Attribute.flags`, `Pattern.flags` — the flags that are mentioned in a
  condition, by an attribute and anywhere in a pattern;
* `Config.Agree` — two options refute the same among some attributes.

Main results:

* `Config.Predicate.holds_congr` — the truth of a condition depends on the flags in it;
* `Pattern.settle_of_agree`, `Pattern.examined_of_agree`, `Pattern.losses_of_agree` — options that
  refute the same leave, look at and lose the same;
* `Pattern.run_eq_of_flags` — **a configuration depends on the flags that the pattern mentions**.
-/

import SurfaceTree.Proofs.Configured
import SurfaceTree.Proofs.Passes

set_option relaxedAutoImplicit false
set_option autoImplicit false

namespace SurfaceTree

namespace Config

/-! ### Conditions -/

/-- What a flag says is switched on. -/
def Options.isOn (o : Options) : Flag → Bool
  | .atom name => o.isSet name
  | .pair key value => o.hasPair key value

namespace Predicate

mutual

/-- The flags that a condition mentions, however deep. -/
def flags : Predicate → List Flag
  | .name n => [.atom n]
  | .pair k v => [.pair k v]
  | .all ps | .any ps => flagsAll ps
  | .not p => p.flags

/-- The flags that the conditions of a list mention, one after another. -/
def flagsAll : List Predicate → List Flag
  | [] => []
  | p :: ps => p.flags ++ flagsAll ps

end

theorem flagsAll_eq_flatMap (ps : List Predicate) : flagsAll ps = ps.flatMap flags := by
  induction ps with
  | nil => rfl
  | cons p ps ih => rw [flagsAll, ih, List.flatMap_cons]

/-- What holds of the flags of some conditions holds of the flags of each of them. -/
theorem forall_flagsAll_iff {P : Flag → Prop} {ps : List Predicate} :
    (∀ f ∈ flagsAll ps, P f) ↔ ∀ p ∈ ps, ∀ f ∈ p.flags, P f := by
  rw [flagsAll_eq_flatMap]
  exact List.forall_mem_flatMap

variable {o₁ o₂ : Options}

mutual

/-- **The truth of a condition depends on the flags that it mentions.** -/
theorem holds_congr {p : Predicate} (h : ∀ f ∈ p.flags, o₁.isOn f = o₂.isOn f) :
    p.holds o₁ = p.holds o₂ := by
  match p with
  | .name n => exact h (.atom n) List.mem_cons_self
  | .pair k v => exact h (.pair k v) List.mem_cons_self
  | .all ps =>
      have hps : ∀ f ∈ flagsAll ps, o₁.isOn f = o₂.isOn f := h
      exact allHold_congr hps
  | .any ps =>
      have hps : ∀ f ∈ flagsAll ps, o₁.isOn f = o₂.isOn f := h
      exact anyHolds_congr hps
  | .not p =>
      have hp : ∀ f ∈ p.flags, o₁.isOn f = o₂.isOn f := h
      rw [holds, holds, holds_congr hp]

theorem allHold_congr {ps : List Predicate} (h : ∀ f ∈ flagsAll ps, o₁.isOn f = o₂.isOn f) :
    allHold o₁ ps = allHold o₂ ps := by
  match ps with
  | [] => rfl
  | p :: ps =>
      have hp : ∀ f ∈ p.flags, o₁.isOn f = o₂.isOn f := fun f hf =>
        h f (List.mem_append_left (flagsAll ps) hf)
      have hps : ∀ f ∈ flagsAll ps, o₁.isOn f = o₂.isOn f := fun f hf =>
        h f (List.mem_append_right p.flags hf)
      rw [allHold, allHold, holds_congr hp, allHold_congr hps]

theorem anyHolds_congr {ps : List Predicate} (h : ∀ f ∈ flagsAll ps, o₁.isOn f = o₂.isOn f) :
    anyHolds o₁ ps = anyHolds o₂ ps := by
  match ps with
  | [] => rfl
  | p :: ps =>
      have hp : ∀ f ∈ p.flags, o₁.isOn f = o₂.isOn f := fun f hf =>
        h f (List.mem_append_left (flagsAll ps) hf)
      have hps : ∀ f ∈ flagsAll ps, o₁.isOn f = o₂.isOn f := fun f hf =>
        h f (List.mem_append_right p.flags hf)
      rw [anyHolds, anyHolds, holds_congr hp, anyHolds_congr hps]

end

end Predicate

end Config

open Config

/-- The flags that the condition of an attribute mentions.  An attribute that states none, or makes
no sense, mentions none. -/
def Attribute.flags (a : Attribute) : List Flag :=
  match Predicate.ofAttribute a with
  | .ok (some c) => c.flags
  | .ok none | .error _ => []

/-- **The flags that are mentioned anywhere in a pattern**, on slots and on absent rest markers
too. -/
def Pattern.flags (p : Pattern) : List Flag := p.attributes.flatMap Attribute.flags

/-! ### Options that refute the same -/

namespace Config

/-- Two options refute the same among some attributes. -/
def Agree (o₁ o₂ : Options) (as : List Attribute) : Prop :=
  ∀ a ∈ as, refutes o₁ a = refutes o₂ a

variable {o₁ o₂ : Options} {as bs : List Attribute}

theorem Agree.subset (h : Agree o₁ o₂ bs) (hs : as ⊆ bs) : Agree o₁ o₂ as := fun a ha => h a (hs ha)

theorem Agree.any_refutes (h : Agree o₁ o₂ as) : as.any (refutes o₁) = as.any (refutes o₂) := by
  induction as with
  | nil => rfl
  | cons a as ih =>
      have has : Agree o₁ o₂ as := h.subset (List.subset_cons_self a as)
      rw [List.any_cons, List.any_cons, h a List.mem_cons_self, ih has]

theorem Agree.examined (h : Agree o₁ o₂ as) : Config.examined o₁ as = Config.examined o₂ as := by
  induction as with
  | nil => rfl
  | cons a as ih =>
      have has : Agree o₁ o₂ as := h.subset (List.subset_cons_self a as)
      rw [Config.examined, Config.examined, h a List.mem_cons_self, ih has]

/-- Options that give the same answers for the flags that some attributes mention refute the same
among them. -/
theorem agree_of_flags (h : ∀ f ∈ as.flatMap Attribute.flags, o₁.isOn f = o₂.isOn f) :
    Agree o₁ o₂ as := by
  intro a ha
  have hflags : ∀ f ∈ a.flags, o₁.isOn f = o₂.isOn f := fun f hf =>
    h f (List.mem_flatMap.2 ⟨a, ha, hf⟩)
  unfold Attribute.flags at hflags
  unfold refutes
  cases hc : Predicate.ofAttribute a with
  | error e => rfl
  | ok c =>
      cases c with
      | none => rfl
      | some c =>
          simp only [hc] at hflags ⊢
          rw [Predicate.holds_congr hflags]

end Config

/-! ### Patterns -/

variable {o₁ o₂ : Options} {p : Pattern}

/-- Between the braces of a struct pattern, options that refute the same leave the same. -/
theorem Elements.settle_mapPatterns_of_agree {e : Elements}
    (hf : ∀ f ∈ e.fields, Agree o₁ o₂ f.attrs) (hr : Agree o₁ o₂ e.restAttrs)
    (g : Pattern → Pattern) : (e.mapPatterns g).settle o₁ = (e.mapPatterns g).settle o₂ := by
  have hfields : (e.mapPatterns g).fields.map (Field.settle o₁) =
      (e.mapPatterns g).fields.map (Field.settle o₂) := by
    rw [Elements.mapPatterns, List.map_map, List.map_map]
    refine List.map_congr_left fun f hmem => ?_
    rw [Function.comp_apply, Function.comp_apply, Field.settle_mapPattern, Field.settle_mapPattern,
      (hf f hmem).any_refutes]
  have hrest : (e.mapPatterns g).restAttrs.any (refutes o₁) =
      (e.mapPatterns g).restAttrs.any (refutes o₂) := hr.any_refutes
  rw [Elements.settle, Elements.settle, hfields, hrest]

/-- Options that refute the same leave the same of a pattern. -/
theorem Pattern.settle_of_agree (h : Agree o₁ o₂ p.attributes) : p.settle o₁ = p.settle o₂ := by
  refine Pattern.mapElements_congr _ fun path e ho g => ?_
  refine Elements.settle_mapPatterns_of_agree (fun f hf => ?_) ?_ g
  · exact h.subset (ho.attrs_subset hf)
  · exact h.subset ho.restAttrs_subset

/-- Options that refute the same look at the same in a pattern. -/
theorem Pattern.examined_of_agree (h : Agree o₁ o₂ p.attributes) :
    p.examined o₁ = p.examined o₂ := by
  refine Pattern.collect_of_agrees fun path e ho => ⟨fun f hf => ?_, fun f hf => ?_, ?_⟩
  · rw [atField_examining, atField_examining, (h.subset (ho.attrs_subset hf)).examined]
  · rw [enters_examining, enters_examining, (h.subset (ho.attrs_subset hf)).any_refutes]
  · rw [atRest_examining, atRest_examining, (h.subset ho.restAttrs_subset).examined]

/-- Options that refute the same make a pattern lose the same. -/
theorem Pattern.losses_of_agree (h : Agree o₁ o₂ p.attributes) : p.losses o₁ = p.losses o₂ := by
  refine Pattern.collect_of_agrees fun path e ho => ⟨fun f hf => ?_, fun f hf => ?_, ?_⟩
  · rw [atField_losing, atField_losing, (h.subset (ho.attrs_subset hf)).any_refutes]
  · rw [enters_losing, enters_losing, (h.subset (ho.attrs_subset hf)).any_refutes]
  · rw [atRest_losing, atRest_losing, (h.subset ho.restAttrs_subset).any_refutes]

/-- The answer of a configuration is the same under options that refute the same. -/
theorem Pattern.configure_of_agree (h : Agree o₁ o₂ p.attributes) :
    p.configure o₁ = p.configure o₂ := by
  rw [Pattern.configure_eq, Pattern.configure_eq, Pattern.examined_of_agree h,
    Pattern.settle_of_agree h, Pattern.losses_of_agree h]

/-- **A configuration depends on the flags that the pattern mentions.**  Options that give the same
answers for these flags give the same answer, which is a pattern with its counts or an error; a
pass leaves the same pattern and counts the same under both; and if it fails, the pattern is as it
was. -/
theorem Pattern.run_eq_of_flags (h : ∀ f ∈ p.flags, o₁.isOn f = o₂.isOn f) :
    p.configure o₁ = p.configure o₂ ∧
      ((Pass.start o₁).run p).1 = ((Pass.start o₂).run p).1 ∧
      ((Pass.start o₁).run p).2.stats = ((Pass.start o₂).run p).2.stats ∧
      ∀ e, p.configure o₁ = .error e →
        ((Pass.start o₁).run p).1 = ⟨p, some e⟩ ∧ ((Pass.start o₂).run p).1 = ⟨p, some e⟩ := by
  have hc : p.configure o₁ = p.configure o₂ := Pattern.configure_of_agree (agree_of_flags h)
  -- what a pass does to a pattern is read off the answer alone
  have halone : Outcome.alone o₁ p = Outcome.alone o₂ p := by
    rw [Outcome.alone, Outcome.alone, hc]
  have hloss : p.lossAlone? o₁ = p.lossAlone? o₂ := by
    rw [Pattern.lossAlone?, Pattern.lossAlone?, hc]
  have hlosses : lossesAlone o₁ [p] = lossesAlone o₂ [p] := by
    simp only [lossesAlone, List.filterMap_cons, List.filterMap_nil, hloss]
  rw [Pass.run_eq, Pass.run_eq]
  refine ⟨hc, halone, ?_, fun e he => ?_⟩
  · exact congrArg (fun ns : List Stats => 0 + ns.sum) hlosses
  · have hfails : Outcome.alone o₁ p = ⟨p, some e⟩ := by rw [Outcome.alone, he]
    exact ⟨hfails, halone.symm.trans hfails⟩

/-- Neither of the samples mentions `feature = "std"`, so switching it on changes nothing. -/
theorem Pattern.run_sample_lateDefect :
    (∀ f ∈ Pattern.sample.flags,
      Options.isOn ⟨{"unix"}, ∅⟩ f = Options.isOn ⟨{"unix"}, {("feature", {"std"})}⟩ f) ∧
    Pattern.sample.configure ⟨{"unix"}, {("feature", {"std"})}⟩ = .ok (sampleOnUnix, ⟨2, 1⟩) ∧
    (∀ f ∈ Pattern.lateDefect.flags,
      Options.isOn ⟨{"unix"}, ∅⟩ f = Options.isOn ⟨{"unix"}, {("feature", {"std"})}⟩ f) ∧
    ((Pass.start ⟨{"unix"}, {("feature", {"std"})}⟩).run .lateDefect).1 =
      ⟨.lateDefect, some (.malformedAttribute "#[cfg]")⟩ := by
  have hsample : ∀ f ∈ Pattern.sample.flags,
      Options.isOn ⟨{"unix"}, ∅⟩ f = Options.isOn ⟨{"unix"}, {("feature", {"std"})}⟩ f := by decide
  have hlate : ∀ f ∈ Pattern.lateDefect.flags,
      Options.isOn ⟨{"unix"}, ∅⟩ f = Options.isOn ⟨{"unix"}, {("feature", {"std"})}⟩ f := by decide
  have hfails : Pattern.lateDefect.configure ⟨{"unix"}, ∅⟩ =
      .error (.malformedAttribute "#[cfg]") := rfl
  refine ⟨hsample, ?_, hlate, ?_⟩
  · exact (Pattern.run_eq_of_flags hsample).1.symm.trans configure_sample
  · exact ((Pattern.run_eq_of_flags hlate).2.2.2 _ hfails).2

end SurfaceTree
