/-
Stripping what stands between braces, one part after another.

A pass strips fields and the rest marker in whatever order it comes to them, and it may come to a
part more than once.  That a field has been stripped is written nowhere but in the field itself: its
pattern is missing, or its name in the short form is empty.  So it has to be said that the parts do
not get into each other's way.  The order in which they are stripped does not matter, nor how often,
and nothing moves: a field that stays is what it was, and one that goes leaves a slot behind that
tells all but its content.

Main definitions:

* `Elements.strip`, `Elements.stripAll` — stripping one part, and one part after another;
* `Field.LeavesSlot` — what a field and its slot have in common.

Main results:

* `Elements.getElem?_fields_strip`, `Elements.getElem?_fields_stripAll` — a field after one part
  has been stripped, and after many;
* `Elements.isLive_strip`, `Elements.isLive_stripAll` — what is there afterwards;
* `Elements.stripAll_congr` — only the parts that are stripped count;
* `Elements.live_stripAll` — the fields that stay, in their order;
* `Elements.strips_in_any_order` — **stripping is free of order, and keeps the shape**.
-/

import SurfaceTree.Proofs.Live

set_option relaxedAutoImplicit false
set_option autoImplicit false

namespace SurfaceTree

/-! ### Slots -/

namespace Field

/-- The index of a field that is given by one. -/
def index? : Field → Option UInt32
  | .indexed i _ _ _ => some i
  | .named _ _ _ _ | .shorthand _ _ _ _ _ => none

/-- The name of a field that is given by one. -/
def name? : Field → Option Ident
  | .indexed _ _ _ _ => none
  | .named x _ _ _ | .shorthand x _ _ _ _ => some x

/-- The words `ref` and `mut`, which only the short form has. -/
def words? : Field → Option (Bool × Bool)
  | .indexed _ _ _ _ | .named _ _ _ _ => none
  | .shorthand _ r m _ _ => some (r, m)

/-- What stands at the place of a field, whether the field has been stripped or not.  With its
content gone the pattern is missing, and the name is empty in the short form only. -/
structure LeavesSlot (f g : Field) (gone : Bool) : Prop where
  attrs : g.attrs = f.attrs
  span : g.span = f.span
  index : g.index? = f.index?
  words : g.words? = f.words?
  name : g.name? = if gone && f.words?.isSome then some .empty else f.name?
  pattern : g.pattern? = if gone then none else f.pattern?

/-- What is stripped leaves its slot, what is not stays as it is, and there is no third way. -/
theorem leavesSlot_iff {f g : Field} {gone : Bool} :
    f.LeavesSlot g gone ↔ g = if gone then f.strip else f := by
  constructor
  · rintro ⟨hattrs, hspan, hindex, hwords, hname, hpattern⟩
    cases f <;> cases g <;> cases gone <;>
      simp_all [Field.attrs, Field.span, index?, words?, name?, pattern?, strip]
  · rintro rfl
    cases gone with
    | false => exact ⟨rfl, rfl, rfl, rfl, rfl, rfl⟩
    | true => cases f <;> exact ⟨rfl, rfl, rfl, rfl, rfl, rfl⟩

end Field

namespace Elements

@[ext] theorem ext {e e' : Elements} (hfields : e.fields = e'.fields)
    (hrest : e.hasRest = e'.hasRest) (hattrs : e.restAttrs = e'.restAttrs) : e = e' := by
  cases e
  cases e'
  cases hfields
  cases hrest
  cases hattrs
  rfl

/-! ### One part -/

/-- Strips a field or the rest marker. -/
def strip (e : Elements) : Carrier → Elements
  | .field i => e.stripField i
  | .rest => e.stripRest

theorem getElem?_fields_strip (e : Elements) (c : Carrier) (i : Nat) :
    (e.strip c).fields[i]? =
      e.fields[i]?.map fun f => if c = .field i then f.strip else f := by
  cases c with
  | rest => simp [strip, stripRest]
  | field j =>
      rw [strip, stripField, List.getElem?_modify]
      by_cases h : j = i <;> simp [h]

theorem hasRest_strip (e : Elements) (c : Carrier) :
    (e.strip c).hasRest = (e.hasRest && decide (c ≠ .rest)) := by
  cases c with
  | rest => simp [strip, stripRest]
  | field i => simp [strip, stripField]

theorem restAttrs_strip (e : Elements) (c : Carrier) :
    (e.strip c).restAttrs = if c = .rest then [] else e.restAttrs := by
  cases c with
  | rest => rfl
  | field i => simp [strip, stripField]

/-- After a part has been stripped, it is not there, and all others are there that were. -/
theorem isLive_strip (e : Elements) (c c' : Carrier) :
    (e.strip c).isLive c' = (e.isLive c' && decide (c ≠ c')) := by
  cases c' with
  | rest => exact hasRest_strip e c
  | field i =>
      rw [isLive, isLive, getElem?_fields_strip]
      cases e.fields[i]? with
      | none => rfl
      | some f => by_cases h : c = .field i <;> simp [h]

/-! ### One part after another -/

/-- Strips fields and the rest marker, one after another. -/
def stripAll (e : Elements) (cs : List Carrier) : Elements := cs.foldl strip e

@[simp] theorem stripAll_nil (e : Elements) : e.stripAll [] = e := rfl

@[simp] theorem stripAll_cons (e : Elements) (c : Carrier) (cs : List Carrier) :
    e.stripAll (c :: cs) = (e.strip c).stripAll cs := rfl

/-- A field is a slot afterwards if it was among what was stripped, and else what it was. -/
theorem getElem?_fields_stripAll (e : Elements) (cs : List Carrier) (i : Nat) :
    (e.stripAll cs).fields[i]? =
      e.fields[i]?.map fun f => if .field i ∈ cs then f.strip else f := by
  induction cs generalizing e with
  | nil => simp
  | cons c cs ih =>
      rw [stripAll_cons, ih, getElem?_fields_strip, Option.map_map]
      congr 1
      funext f
      -- the one field that can be stripped twice is in the head and in the tail
      by_cases hc : c = .field i <;> by_cases hcs : Carrier.field i ∈ cs <;>
        simp [hc, hcs, eq_comm]

theorem restAttrs_stripAll (e : Elements) (cs : List Carrier) :
    (e.stripAll cs).restAttrs = if .rest ∈ cs then [] else e.restAttrs := by
  induction cs generalizing e with
  | nil => simp
  | cons c cs ih =>
      rw [stripAll_cons, ih, restAttrs_strip]
      by_cases hc : c = .rest <;> by_cases hcs : Carrier.rest ∈ cs <;> simp [hc, hcs, eq_comm]

/-- Afterwards that is there which was there and has not been stripped. -/
theorem isLive_stripAll (e : Elements) (cs : List Carrier) (c : Carrier) :
    (e.stripAll cs).isLive c = (e.isLive c && decide (c ∉ cs)) := by
  induction cs generalizing e with
  | nil => simp
  | cons c' cs ih =>
      rw [stripAll_cons, ih, isLive_strip, Bool.and_assoc, ← Bool.decide_and]
      simp only [List.mem_cons, not_or, ne_comm]

theorem hasRest_stripAll (e : Elements) (cs : List Carrier) :
    (e.stripAll cs).hasRest = (e.hasRest && decide (.rest ∉ cs)) :=
  isLive_stripAll e cs .rest

/-- **Only the parts that are stripped count**, not their order, nor how often one of them is
stripped. -/
theorem stripAll_congr {cs cs' : List Carrier} (h : ∀ c, c ∈ cs ↔ c ∈ cs') (e : Elements) :
    e.stripAll cs = e.stripAll cs' := by
  refine Elements.ext (List.ext_getElem? fun i => ?_) ?_ ?_
  · rw [getElem?_fields_stripAll, getElem?_fields_stripAll]
    simp only [h]
  · rw [hasRest_stripAll, hasRest_stripAll]
    simp only [h]
  · rw [restAttrs_stripAll, restAttrs_stripAll]
    simp only [h]

/-- The fields afterwards, from the fields before and their positions. -/
theorem fields_stripAll (e : Elements) (cs : List Carrier) :
    (e.stripAll cs).fields =
      e.fields.zipIdx.map fun p => if .field p.2 ∈ cs then p.1.strip else p.1 := by
  refine List.ext_getElem? fun i => ?_
  rw [getElem?_fields_stripAll, List.getElem?_map, List.getElem?_zipIdx, Option.map_map,
    Nat.zero_add]
  rfl

@[simp] theorem length_fields_stripAll (e : Elements) (cs : List Carrier) :
    (e.stripAll cs).fields.length = e.fields.length := by
  rw [fields_stripAll, List.length_map, List.length_zipIdx]

/-- **The fields that stay** are those that were live and have not been stripped, as they were and
in the order in which they stood. -/
theorem live_stripAll (e : Elements) (cs : List Carrier) :
    (e.stripAll cs).live =
      (e.fields.zipIdx.filter fun p => !p.1.isStripped && decide (.field p.2 ∉ cs)).map
        Prod.fst := by
  have hkept : ((fun f => !f.isStripped) ∘ fun p : Field × Nat =>
      if .field p.2 ∈ cs then p.1.strip else p.1) =
      fun p => !p.1.isStripped && decide (.field p.2 ∉ cs) := by
    funext p
    by_cases h : Carrier.field p.2 ∈ cs <;> simp [h]
  rw [live, fields_stripAll, List.filter_map, hkept]
  refine List.map_congr_left fun p hp => ?_
  have hnot : Carrier.field p.2 ∉ cs := by
    obtain ⟨-, hlive⟩ := List.mem_filter.1 hp
    exact of_decide_eq_true (Bool.and_eq_true_iff.1 hlive).2
  exact if_neg hnot

/-- Nothing is left if there were no fields, stripped or not, and the rest marker was absent from
the start or has been stripped. -/
theorem isEmpty_stripAll (e : Elements) (cs : List Carrier) :
    (e.stripAll cs).isEmpty = true ↔ e.fields = [] ∧ (e.hasRest = false ∨ .rest ∈ cs) := by
  have hfields : (e.stripAll cs).fields.isEmpty = true ↔ e.fields = [] := by
    rw [List.isEmpty_iff_length_eq_zero, length_fields_stripAll, List.length_eq_zero_iff]
  rw [isEmpty, Bool.and_eq_true, hfields, hasRest_stripAll]
  simp

/-- **Stripping is free of order, and keeps the shape.**  What comes of it depends only on which
fields are stripped and whether the rest marker is.  There are as many fields as before, and each
of them stands at its place: as it was, or as the slot it leaves.  The live fields are those that
were live and have not been stripped, and a rest marker that has been stripped is gone with its
attributes, whatever is stripped after it. -/
theorem strips_in_any_order (e : Elements) (cs : List Carrier) :
    (∀ cs', (∀ i, .field i ∈ cs' ↔ .field i ∈ cs) → (.rest ∈ cs' ↔ .rest ∈ cs) →
      e.stripAll cs' = e.stripAll cs) ∧
    (e.stripAll cs).fields.length = e.fields.length ∧
    (∀ (i : Nat) (f : Field), e.fields[i]? = some f →
      ∃ g, (e.stripAll cs).fields[i]? = some g ∧ f.LeavesSlot g (decide (.field i ∈ cs))) ∧
    (e.stripAll cs).live =
      (e.fields.zipIdx.filter fun p => !p.1.isStripped && decide (.field p.2 ∉ cs)).map
        Prod.fst ∧
    (.rest ∈ cs → (e.stripAll cs).hasRest = false ∧ (e.stripAll cs).restAttrs = []) ∧
    (.rest ∉ cs → (e.stripAll cs).hasRest = e.hasRest ∧
      (e.stripAll cs).restAttrs = e.restAttrs) ∧
    ((e.stripAll cs).isEmpty = true ↔ e.fields = [] ∧ (e.hasRest = false ∨ .rest ∈ cs)) := by
  refine ⟨?_, length_fields_stripAll e cs, ?_, live_stripAll e cs, ?_, ?_, isEmpty_stripAll e cs⟩
  · intro cs' hfields hrest
    refine stripAll_congr (fun c => ?_) e
    cases c with
    | field i => exact hfields i
    | rest => exact hrest
  · intro i f hf
    refine ⟨if .field i ∈ cs then f.strip else f, ?_, ?_⟩
    · rw [getElem?_fields_stripAll, hf, Option.map_some]
    · rw [Field.leavesSlot_iff]
      simp only [decide_eq_true_eq]
  · intro h
    rw [hasRest_stripAll, restAttrs_stripAll]
    simp [h]
  · intro h
    rw [hasRest_stripAll, restAttrs_stripAll]
    simp [h]

/-- A field of each form, the second of them stripped before, and a rest marker with an
attribute. -/
def mixed : Elements :=
  ⟨[.indexed 0 (some (.wildcard ⟨3, 4⟩)) [] ⟨0, 4⟩, .named ⟨"x"⟩ none [] ⟨6, 10⟩,
    .shorthand ⟨"y"⟩ true false [⟨.word (.single "inline"), .dummy⟩] ⟨12, 17⟩], true,
    [⟨.word (.single "allow"), .dummy⟩]⟩

/-- The rest marker first and the field twice, or the field once and the rest marker last: the slot
of the field keeps all but the name, and only the first field stays.  With only that one stripped,
the rest marker stays. -/
theorem strips_in_any_order_mixed :
    mixed.stripAll [.rest, .field 2, .field 2] = mixed.stripAll [.field 2, .rest] ∧
      (∃ g, (mixed.stripAll [.field 2, .rest]).fields[2]? = some g ∧
        (Field.shorthand ⟨"y"⟩ true false [⟨.word (.single "inline"), .dummy⟩]
          ⟨12, 17⟩).LeavesSlot g true) ∧
      (mixed.stripAll [.field 2, .rest]).live =
        [.indexed 0 (some (.wildcard ⟨3, 4⟩)) [] ⟨0, 4⟩] ∧
      (mixed.stripAll [.field 2, .rest]).hasRest = false ∧
      (mixed.stripAll [.field 2, .rest]).restAttrs = [] ∧
      (mixed.stripAll [.field 0]).hasRest = true := by
  obtain ⟨hset, -, hslots, hlive, hgone, -, -⟩ := strips_in_any_order mixed [.field 2, .rest]
  obtain ⟨-, -, -, -, -, hkept, -⟩ := strips_in_any_order mixed [.field 0]
  obtain ⟨hrest, hattrs⟩ := hgone (by decide)
  exact ⟨hset _ (by simp) (by simp), hslots 2 _ rfl, hlive, hrest, hattrs, (hkept (by decide)).1⟩

end Elements

end SurfaceTree
