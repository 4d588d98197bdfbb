/-
The result of a configuration, and its failure.

Both are read off `Pattern.configure_eq`.  A configuration that succeeds leaves
`Pattern.settle`, a function of the pattern that knows no order and no failure; one that fails
gives the first defect among the attributes that it looks at.  An attribute that is not looked at,
because it stands after a false condition or below a stripped field, cannot make it fail.

Main results:

* `Pattern.eq_settle_of_configure` — **what a configuration leaves**, and what it counts;
* `Pattern.configure_fails_first` — **when a configuration fails, and why**.
-/

import SurfaceTree.Proofs.Examined

set_option relaxedAutoImplicit false
set_option autoImplicit false

namespace SurfaceTree

open Config

/-! ### Success -/

namespace Config

variable {β : Type} {seen : List Attribute} {left : β} {lost : List Stats}

theorem verdict_eq_ok_iff {r : β × Stats} :
    verdict seen left lost = .ok r ↔ firstDefect? seen = none ∧ r = (left, lost.sum) := by
  unfold verdict
  cases firstDefect? seen with
  | some e => simp
  | none => simp [eq_comm]

theorem verdict_eq_error_iff {e : ConfigError} :
    verdict seen left lost = .error e ↔ firstDefect? seen = some e := by
  unfold verdict
  cases firstDefect? seen <;> simp

end Config

/-- A configuration succeeds exactly if all attributes that it looks at make sense. -/
theorem Pattern.configure_eq_ok_iff {o : Options} {p q : Pattern} {n : Stats} :
    p.configure o = .ok (q, n) ↔
      (∀ a ∈ p.examined o, ∃ r, Predicate.ofAttribute a = .ok r) ∧
        q = p.settle o ∧ n = (p.losses o).sum := by
  rw [Pattern.configure_eq, verdict_eq_ok_iff, firstDefect?_eq_none_iff, Prod.mk.injEq]

/-- **What a configuration leaves**: in every struct pattern that is reached, each field in its
place and the rest marker, settled by their own conditions, and all else as it was.  From the
outside in this is `Pattern.settle_struct` with `Field.settle_mapPattern`, and
`Pattern.settle_of_elements?_eq_none`.  Its counts are the sum of what is lost. -/
theorem Pattern.eq_settle_of_configure {o : Options} {p q : Pattern} {n : Stats}
    (h : p.configure o = .ok (q, n)) : q = p.settle o ∧ n = (p.losses o).sum := by
  rw [Pattern.configure_eq] at h
  have hr : (q, n) = (p.settle o, (p.losses o).sum) := (verdict_eq_ok_iff.1 h).2
  exact Prod.mk.inj hr

/-- The attribute `#[name]`. -/
def Attribute.word (name : String) : Attribute := ⟨.word (.single name), .dummy⟩

/-- The attribute that states the condition `name`. -/
def Attribute.condition (name : String) : Attribute :=
  ⟨.list (.single Predicate.attributeName) [.word (.single name)], .dummy⟩

/-- A struct pattern of which only the braces matter. -/
def Pattern.braces (e : Elements) : Pattern := .struct ⟨[], false, .dummy⟩ e

/-- The pattern `{ a: { b, 0, c }, d, .. }`, in which `0` is a slot.  All but `c` have conditions,
and the second of `d` and the one of the slot make no sense. -/
def Pattern.sample : Pattern :=
  .braces ⟨[
    .named ⟨"a"⟩ (some (.braces ⟨[
        .shorthand ⟨"b"⟩ false false [.condition "windows"] .dummy,
        .indexed 0 none [.word "cfg"] .dummy,
        .shorthand ⟨"c"⟩ false true [.word "inline"] .dummy], false, []⟩))
      [.condition "unix", .word "inline"] .dummy,
    .shorthand ⟨"d"⟩ true false [.condition "windows", .word "cfg"] .dummy],
    true, [.condition "test"]⟩

/-- What is left of the sample when only `unix` is set. -/
def Pattern.sampleOnUnix : Pattern :=
  .braces ⟨[
    .named ⟨"a"⟩ (some (.braces ⟨[
        .shorthand .empty false false [.condition "windows"] .dummy,
        .indexed 0 none [.word "cfg"] .dummy,
        .shorthand ⟨"c"⟩ false true [.word "inline"] .dummy], false, []⟩))
      [.word "inline"] .dummy,
    .shorthand .empty true false [.condition "windows", .word "cfg"] .dummy],
    false, []⟩

theorem Pattern.configure_sample :
    Pattern.sample.configure ⟨{"unix"}, ∅⟩ = .ok (sampleOnUnix, ⟨2, 1⟩) := rfl

theorem Pattern.sampleOnUnix_eq_settle :
    Pattern.sample.configure ⟨{"unix"}, ∅⟩ = .ok (sampleOnUnix, ⟨2, 1⟩) ∧
      sampleOnUnix = Pattern.sample.settle ⟨{"unix"}, ∅⟩ ∧
      (⟨2, 1⟩ : Stats) = (Pattern.sample.losses ⟨{"unix"}, ∅⟩).sum :=
  ⟨configure_sample, Pattern.eq_settle_of_configure configure_sample⟩

/-! ### Failure -/

theorem Config.examined_subset (o : Options) (as : List Attribute) :
    Config.examined o as ⊆ as := by
  induction as with
  | nil => exact List.Subset.refl []
  | cons a as ih =>
      intro b hb
      rcases List.mem_cons.1 hb with rfl | hb
      · exact List.mem_cons_self
      · split at hb
        · exact absurd hb List.not_mem_nil
        · exact List.mem_cons_of_mem a (ih hb)

/-- What is looked at is in the pattern. -/
theorem Pattern.examined_subset_attributes (o : Options) (p : Pattern) :
    p.examined o ⊆ p.attributes := by
  refine Pattern.collect_subset fun path e _ => ⟨?_, fun _ _ _ => rfl, ?_⟩
  · intro f _ a ha
    rw [atField_examining] at ha
    split at ha
    · exact absurd ha List.not_mem_nil
    · exact Config.examined_subset o f.attrs ha
  · intro a ha
    rw [atRest_examining] at ha
    split at ha
    · exact Config.examined_subset o e.restAttrs ha
    · exact absurd ha List.not_mem_nil

/-- **When a configuration fails, and why.**  It fails with a defect exactly if an attribute that it
looks at has that defect and no attribute before it has any.  So it fails exactly if it looks at
an attribute that makes no sense, and a pattern without such attributes can be configured under
any options. -/
theorem Pattern.configure_fails_first (o : Options) (p : Pattern) :
    (∀ e, p.configure o = .error e ↔
      ∃ before a after, p.examined o = before ++ a :: after ∧
        (∀ b ∈ before, ∃ r, Predicate.ofAttribute b = .ok r) ∧
        Predicate.ofAttribute a = .error e) ∧
    ((∃ e, p.configure o = .error e) ↔
      ∃ a ∈ p.examined o, ∃ e, Predicate.ofAttribute a = .error e) ∧
    ((∀ a ∈ p.attributes, ∃ r, Predicate.ofAttribute a = .ok r) →
      ∀ o', ∃ q n, p.configure o' = .ok (q, n)) := by
  refine ⟨fun e => ?_, ?_, fun h o' => ?_⟩
  · rw [Pattern.configure_eq, verdict_eq_error_iff, firstDefect?_eq_some_iff]
  · constructor
    · rintro ⟨e, h⟩
      rw [Pattern.configure_eq, verdict_eq_error_iff, firstDefect?_eq_some_iff] at h
      obtain ⟨before, a, after, hp, -, ha⟩ := h
      exact ⟨a, by rw [hp]; simp, e, ha⟩
    · rintro ⟨a, hmem, e, ha⟩
      -- the defect that is found may be that of another attribute, further to the left
      cases hd : firstDefect? (p.examined o) with
      | some e' => exact ⟨e', by rw [Pattern.configure_eq, verdict_eq_error_iff, hd]⟩
      | none =>
          obtain ⟨r, hr⟩ := firstDefect?_eq_none_iff.1 hd a hmem
          rw [hr] at ha
          cases ha
  · refine ⟨p.settle o', (p.losses o').sum, ?_⟩
    rw [Pattern.configure_eq, verdict_eq_ok_iff, firstDefect?_eq_none_iff]
    exact ⟨fun a ha => h a (Pattern.examined_subset_attributes o' p ha), rfl⟩

/-- With `windows` set as well, the second attribute of `d` is looked at. -/
theorem Pattern.sample_fails_on_windows :
    Pattern.sample.configure ⟨{"unix", "windows"}, ∅⟩ =
      .error (.malformedAttribute "#[cfg]") := by
  refine ((Pattern.configure_fails_first ⟨{"unix", "windows"}, ∅⟩ Pattern.sample).1 _).2
    ⟨[.condition "unix", .word "inline", .condition "windows", .word "inline",
        .condition "windows"], .word "cfg", [.condition "test"], rfl, ?_, rfl⟩
  intro b hb
  simp only [List.mem_cons, List.not_mem_nil, or_false] at hb
  rcases hb with rfl | rfl | rfl | rfl | rfl <;> exact ⟨_, rfl⟩

end SurfaceTree
