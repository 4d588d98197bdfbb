/-
Spans that are merged, as many as there are and in whatever way.

Two spans are merged into one that reaches over both.  A span lies within another if it does not
start before it and does not stop after it, and the merged span is the least one within which both
lie.  What is merged out of many is then the least span within which all of them lie, and that says
nothing of the order in which they are merged or of the brackets.

Which offsets lie in a span is a weaker thing to know than where it starts and stops, because of the
spans without offsets: one of them can stand anywhere, and yet it draws the merged span to itself.
Only without them is the merged span the least one for the offsets.

Main definitions:

* `Span.Within` — a span lies within another;
* `Span.Merging` — a way to merge spans, two at a time.

Main results:

* `Span.merge_within_iff`, `Span.Merging.result_within_iff` — what is merged is the least span
  within which its parts lie, for two spans and for many;
* `Span.Merging.result_eq_of_perm` — **neither the order nor the brackets matter**;
* `Span.within_iff_of_lt` — lying within, for spans with offsets, as a matter of the offsets;
* `Span.ofRange_eq_error_iff` — the range errors, the first cause first;
* `Span.merged_ranges_are_exact` — **what is merged out of checked ranges is exact**.
-/

import SurfaceTree.Span

set_option relaxedAutoImplicit false
set_option autoImplicit false

namespace SurfaceTree.Span

/-! ### Spans within spans -/

/-- A span lies within another if it neither starts before it nor stops after it. -/
def Within (s t : Span) : Prop := t.start ≤ s.start ∧ s.stop ≤ t.stop

theorem within_iff {s t : Span} :
    s.Within t ↔ t.toRange.1 ≤ s.toRange.1 ∧ s.toRange.2 ≤ t.toRange.2 := by
  simp only [Within, UInt32.le_iff_toNat_le, toRange]

theorem contains_iff {s : Span} {offset : UInt32} :
    s.Contains offset ↔ s.toRange.1 ≤ offset.toNat ∧ offset.toNat < s.toRange.2 := by
  simp only [Contains, UInt32.le_iff_toNat_le, UInt32.lt_iff_toNat_lt, toRange]

@[simp] theorem within_refl (s : Span) : s.Within s := within_iff.2 ⟨Nat.le_refl _, Nat.le_refl _⟩

theorem Within.antisymm {s t : Span} (h : s.Within t) (h' : t.Within s) : s = t := by
  obtain ⟨hstart, hstop⟩ := within_iff.1 h
  obtain ⟨hstart', hstop'⟩ := within_iff.1 h'
  exact toRange_injective (Prod.ext (Nat.le_antisymm hstart' hstart) (Nat.le_antisymm hstop hstop'))

/-- A span is known by the spans within which it lies. -/
theorem eq_of_within_iff {s t : Span} (h : ∀ u, s.Within u ↔ t.Within u) : s = t :=
  Within.antisymm ((h t).2 t.within_refl) ((h s).1 s.within_refl)

/-- **The merged span is the least one** within which both spans lie. -/
theorem merge_within_iff {s t u : Span} : (s.merge t).Within u ↔ s.Within u ∧ t.Within u := by
  rw [within_iff, within_iff, within_iff, toRange_merge]
  omega

theorem Within.contains {s t : Span} (h : s.Within t) {offset : UInt32} (ho : s.Contains offset) :
    t.Contains offset := by
  obtain ⟨hstart, hstop⟩ := within_iff.1 h
  obtain ⟨hfrom, hto⟩ := contains_iff.1 ho
  exact contains_iff.2 ⟨by omega, by omega⟩

/-- A span with offsets lies within another if all its offsets lie in the other. -/
theorem within_iff_of_lt {s t : Span} (h : s.toRange.1 < s.toRange.2) :
    s.Within t ↔ ∀ offset, s.Contains offset → t.Contains offset := by
  refine ⟨fun hw offset => hw.contains, fun hall => within_iff.2 ?_⟩
  have hstop : s.toRange.2 < UInt32.size := s.stop.toNat_lt
  -- the first offset of the span, and the last one
  have hfirst := contains_iff.1 (hall s.start (contains_iff.2 ⟨Nat.le_refl _, h⟩))
  have hlast := hall (UInt32.ofNat (s.toRange.2 - 1))
  simp only [contains_iff, UInt32.toNat_ofNat_of_lt' (show s.toRange.2 - 1 < UInt32.size by omega)]
    at hlast
  have hto := (hlast ⟨by omega, by omega⟩).2
  exact ⟨hfirst.1, by omega⟩

/-! ### Ways to merge -/

/-- A way to merge spans, two at a time. -/
inductive Merging where
  /-- A span alone. -/
  | one (span : Span)
  /-- What two ways lead to, merged. -/
  | both (left right : Merging)

namespace Merging

/-- The spans that are merged, from left to right. -/
def spans : Merging → List Span
  | one s => [s]
  | both l r => l.spans ++ r.spans

/-- What is merged out of them. -/
def result : Merging → Span
  | one s => s
  | both l r => l.result.merge r.result

/-- What is merged out of some spans is the least span within which all of them lie. -/
theorem result_within_iff (w : Merging) (u : Span) :
    w.result.Within u ↔ ∀ s ∈ w.spans, s.Within u := by
  induction w with
  | one s => simp [result, spans]
  | both l r ihl ihr =>
      rw [result, merge_within_iff, ihl, ihr, spans, List.forall_mem_append]

/-- **Neither the order nor the brackets matter**: out of some spans, in whatever way they are
merged, comes the least one within which all of them lie. -/
theorem result_eq_of_perm {w : Merging} {spans : List Span} (h : w.spans.Perm spans) {m : Span}
    (hm : ∀ u, m.Within u ↔ ∀ s ∈ spans, s.Within u) : w.result = m := by
  refine eq_of_within_iff fun u => ?_
  rw [result_within_iff, hm]
  simp only [h.mem_iff]

end Merging

/-! ### Checked ranges -/

/-- A range that is no span is inverted, or else starts too late, or else stops too late. -/
theorem ofRange_eq_error_iff {start stop : Nat} {e : RangeError} :
    ofRange start stop = .error e ↔
      stop < start ∧ e = .inverted start stop ∨
      start ≤ stop ∧ UInt32.size ≤ start ∧ e = .startTooLarge start ∨
      start ≤ stop ∧ start < UInt32.size ∧ UInt32.size ≤ stop ∧ e = .stopTooLarge stop := by
  constructor
  · intro h
    unfold ofRange at h
    split at h
    · cases h
      exact .inl ⟨by omega, rfl⟩
    · split at h
      · cases h
        exact .inr (.inl ⟨by omega, by omega, rfl⟩)
      · split at h
        · cases h
          exact .inr (.inr ⟨by omega, by omega, by omega, rfl⟩)
        · cases h
  · rintro (⟨hinverted, rfl⟩ | ⟨hordered, hstart, rfl⟩ | ⟨hordered, hstart, hstop, rfl⟩)
    · exact if_pos hinverted
    · rw [ofRange, if_neg (Nat.not_lt.2 hordered), if_pos hstart]
    · rw [ofRange, if_neg (Nat.not_lt.2 hordered), if_neg (Nat.not_le.2 hstart), if_pos hstop]

/-- A range is a span exactly if it is ordered and fits. -/
theorem exists_ofRange_iff {start stop : Nat} :
    (∃ s, ofRange start stop = .ok s) ↔ start ≤ stop ∧ stop < UInt32.size := by
  constructor
  · rintro ⟨s, hs⟩
    obtain ⟨hle, hlt, -⟩ := ofRange_eq_ok_iff.1 hs
    exact ⟨hle, hlt⟩
  · rintro ⟨hle, hlt⟩
    cases h : ofRange start stop with
    | ok s => exact ⟨s, rfl⟩
    | error e =>
        obtain ⟨hinverted, -⟩ | ⟨-, hstart, -⟩ | ⟨-, -, hstop, -⟩ := ofRange_eq_error_iff.1 h
        · omega
        · omega
        · omega

/-- The ranges can be read off the spans that are made of them. -/
theorem map_toRange_eq {ranges : List (Nat × Nat)} {spans : List Span}
    (h : ranges.map (fun r => ofRange r.1 r.2) = spans.map .ok) : spans.map toRange = ranges := by
  induction ranges generalizing spans with
  | nil =>
      obtain rfl : spans = [] := List.map_eq_nil_iff.1 h.symm
      rfl
  | cons r ranges ih =>
      cases spans with
      | nil => cases h
      | cons s spans =>
          obtain ⟨hs, hspans⟩ := List.cons.inj h
          rw [List.map_cons, ih hspans, (ofRange_eq_ok_iff.1 hs).2.2]

/-- From the least start to the greatest stop of some checked ranges there is a checked range. -/
theorem exists_extremes {ranges : List (Nat × Nat)} (hne : ranges ≠ [])
    (hfits : ∀ r ∈ ranges, r.1 ≤ r.2 ∧ r.2 < UInt32.size) :
    ∃ lo hi, (ranges.map Prod.fst).min? = some lo ∧ (ranges.map Prod.snd).max? = some hi ∧
      ∃ m, ofRange lo hi = .ok m := by
  have hstarts : ranges.map Prod.fst ≠ [] := by simpa using hne
  have hstops : ranges.map Prod.snd ≠ [] := by simpa using hne
  obtain ⟨lo, hlo⟩ := Option.isSome_iff_exists.1 (List.isSome_min?_of_ne_nil hstarts)
  obtain ⟨hi, hhi⟩ := Option.isSome_iff_exists.1 (List.isSome_max?_of_ne_nil hstops)
  obtain ⟨hfirst, -⟩ := List.min?_eq_some_iff.1 hlo
  obtain ⟨hlast, hgreatest⟩ := List.max?_eq_some_iff.1 hhi
  obtain ⟨r, hr, rfl⟩ := List.mem_map.1 hfirst
  obtain ⟨r', hr', rfl⟩ := List.mem_map.1 hlast
  have hordered : r.1 ≤ r'.2 :=
    Nat.le_trans (hfits r hr).1 (hgreatest _ (List.mem_map_of_mem hr))
  exact ⟨r.1, r'.2, hlo, hhi, exists_ofRange_iff.2 ⟨hordered, (hfits r' hr').2⟩⟩

/-- The span from the least start to the greatest stop is the least one within which all lie. -/
theorem within_iff_of_extremes {spans : List Span} {m : Span}
    (hstart : (spans.map fun s => s.toRange.1).min? = some m.toRange.1)
    (hstop : (spans.map fun s => s.toRange.2).max? = some m.toRange.2) (u : Span) :
    m.Within u ↔ ∀ s ∈ spans, s.Within u := by
  obtain ⟨hfirst, hleast⟩ := List.min?_eq_some_iff.1 hstart
  obtain ⟨hlast, hgreatest⟩ := List.max?_eq_some_iff.1 hstop
  constructor
  · intro h s hs
    obtain ⟨hfrom, hto⟩ := within_iff.1 h
    have hfrom' := hleast _ (List.mem_map_of_mem hs)
    have hto' := hgreatest _ (List.mem_map_of_mem hs)
    exact within_iff.2 ⟨by omega, by omega⟩
  · intro h
    obtain ⟨s, hs, hfrom⟩ := List.mem_map.1 hfirst
    obtain ⟨t, ht, hto⟩ := List.mem_map.1 hlast
    exact within_iff.2 ⟨hfrom ▸ (within_iff.1 (h s hs)).1, hto ▸ (within_iff.1 (h t ht)).2⟩

/-- **What is merged out of checked ranges is exact.**  A range is a span exactly if it is ordered
and fits, and of two reasons why it is none the first one in order is given.  Whatever way spans
that are made of ranges are merged, out of the same ranges comes the same span.  It reaches from the
least start to the greatest stop, is not inverted, has the length that lies between the two and the
offsets that do; and if none of the ranges is empty, it is the least span with the offsets of them
all. -/
theorem merged_ranges_are_exact :
    (∀ start stop : Nat,
      (∃ s, ofRange start stop = .ok s) ↔ start ≤ stop ∧ stop < UInt32.size) ∧
    (∀ (start stop : Nat) (e : RangeError), ofRange start stop = .error e ↔
      stop < start ∧ e = .inverted start stop ∨
      start ≤ stop ∧ UInt32.size ≤ start ∧ e = .startTooLarge start ∨
      start ≤ stop ∧ start < UInt32.size ∧ UInt32.size ≤ stop ∧ e = .stopTooLarge stop) ∧
    ∀ (ranges : List (Nat × Nat)) (spans : List Span), ranges ≠ [] →
      ranges.map (fun r => ofRange r.1 r.2) = spans.map .ok →
      ∃ (m : Span) (lo hi : Nat),
        (∀ w : Merging, w.spans.Perm spans → w.result = m) ∧
        (ranges.map Prod.fst).min? = some lo ∧ (ranges.map Prod.snd).max? = some hi ∧
        m.toRange = (lo, hi) ∧ lo ≤ hi ∧ lo + m.length = hi ∧
        (∀ offset : UInt32, m.Contains offset ↔ lo ≤ offset.toNat ∧ offset.toNat < hi) ∧
        ((∀ r ∈ ranges, r.1 < r.2) →
          (∀ s ∈ spans, ∀ offset, s.Contains offset → m.Contains offset) ∧
          ∀ u : Span, (∀ s ∈ spans, ∀ offset, s.Contains offset → u.Contains offset) →
            m.Within u) := by
  refine ⟨fun start stop => exists_ofRange_iff, fun start stop e => ofRange_eq_error_iff, ?_⟩
  intro ranges spans hne hspans
  have hfits : ∀ r ∈ ranges, r.1 ≤ r.2 ∧ r.2 < UInt32.size := by
    intro r hr
    have hmem : ofRange r.1 r.2 ∈ spans.map Except.ok := hspans ▸ List.mem_map_of_mem hr
    obtain ⟨s, -, hs⟩ := List.mem_map.1 hmem
    exact exists_ofRange_iff.1 ⟨s, hs.symm⟩
  obtain ⟨lo, hi, hlo, hhi, m, hm⟩ := exists_extremes hne hfits
  obtain ⟨hle, -, hends⟩ := ofRange_eq_ok_iff.1 hm
  obtain rfl := map_toRange_eq hspans
  have hleast : ∀ u, m.Within u ↔ ∀ s ∈ spans, s.Within u := by
    refine within_iff_of_extremes ?_ ?_
    · rw [hends, ← hlo, List.map_map]
      rfl
    · rw [hends, ← hhi, List.map_map]
      rfl
  refine ⟨m, lo, hi, fun w hw => Merging.result_eq_of_perm hw hleast, hlo, hhi, hends, hle,
    ?_, fun offset => ?_, fun hnonempty => ?_⟩
  · have hlength : m.length = hi - lo := by
      change m.toRange.2 - m.toRange.1 = hi - lo
      rw [hends]
    omega
  · rw [contains_iff, hends]
  · have hoffsets : ∀ u, m.Within u ↔ ∀ s ∈ spans, ∀ offset, s.Contains offset →
        u.Contains offset := by
      intro u
      rw [hleast]
      exact forall₂_congr fun s hs => within_iff_of_lt (hnonempty _ (List.mem_map_of_mem hs))
    exact ⟨(hoffsets m).1 m.within_refl, fun u => (hoffsets u).2⟩

/-- A range within another, and one that ends where no range can start any more. -/
def farRanges : List (Nat × Nat) := [(5, 6), (4294967290, 4294967295), (3, 8)]

/-- The spans that are made of these ranges. -/
def farSpans : List Span := [⟨5, 6⟩, ⟨4294967290, 4294967295⟩, ⟨3, 8⟩]

/-- Two ways to merge them lead to the same span, which stops at the last offset there is. -/
theorem merged_ranges_are_exact_far :
    farRanges.map (fun r => ofRange r.1 r.2) = farSpans.map .ok ∧
    ∃ m : Span,
      (Merging.both (.one ⟨5, 6⟩)
        (.both (.one ⟨4294967290, 4294967295⟩) (.one ⟨3, 8⟩))).result = m ∧
      (Merging.both (.both (.one ⟨3, 8⟩) (.one ⟨5, 6⟩))
        (.one ⟨4294967290, 4294967295⟩)).result = m ∧
      m.toRange = (3, 4294967295) ∧ 3 + m.length = 4294967295 ∧ m.Contains 4294967294 ∧
      ∀ u : Span, (∀ s ∈ farSpans, ∀ offset, s.Contains offset → u.Contains offset) →
        m.Within u := by
  have hspans : farRanges.map (fun r => ofRange r.1 r.2) = farSpans.map .ok := rfl
  obtain ⟨m, lo, hi, hresult, hlo, hhi, hends, -, hlength, hcontains, hleast⟩ :=
    merged_ranges_are_exact.2.2 farRanges farSpans (by decide) hspans
  obtain rfl : 3 = lo := Option.some.inj hlo
  obtain rfl : 4294967295 = hi := Option.some.inj hhi
  exact ⟨hspans, m, hresult _ (by decide), hresult _ (by decide), hends, hlength,
    (hcontains _).2 (by decide), (hleast (by decide)).2⟩

end SurfaceTree.Span
