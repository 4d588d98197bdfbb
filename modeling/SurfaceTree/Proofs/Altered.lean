/-
Attributes altered in one place of a pattern.

Taking the attributes of one field or of one rest marker for others leaves all else in the tree as
it is.  What can be read off the two trees then differs at that place only: every carrier of
attributes is there in both or in neither, and a collection that does not see the change in the one
place does not see it at all.

Main definitions:

* `Elements.setAttrs` — other attributes on one carrier;
* `Pattern.Alters` — one pattern is another with the attributes of one carrier altered;
* `Elements.Near` — the same carriers with related attributes.

Main results:

* `Pattern.Alters.near` — what stands at a place before and after;
* `Pattern.Alters.exists_of_mem` — where the attributes come from that there are afterwards;
* `Pattern.collect_setChild` — a collection that does not see the change of a sub-pattern.
-/

import Mathlib.Data.List.Basic
import SurfaceTree.Proofs.Live

set_option relaxedAutoImplicit false
set_option autoImplicit false

namespace SurfaceTree

/-! ### One member of a list -/

section

variable {α β : Type} {u : α → α} {l : List α} {i : Nat}

/-- A change to one member that `g` does not see. -/
theorem map_modify_of_eq {g : α → β} (h : ∀ a, l[i]? = some a → g (u a) = g a) :
    (l.modify i u).map g = l.map g := by
  refine List.ext_getElem? fun j => ?_
  rw [List.getElem?_map, List.getElem?_map, List.getElem?_modify]
  cases hj : l[j]? with
  | none => rfl
  | some a =>
      by_cases hij : i = j
      · subst hij
        simp [h a hj]
      · simp [hij]

theorem flatMap_modify_of_eq {g : α → List β} (h : ∀ a, l[i]? = some a → g (u a) = g a) :
    (l.modify i u).flatMap g = l.flatMap g := by
  rw [List.flatMap_def, List.flatMap_def, map_modify_of_eq h]

theorem flatMap_set_of_eq {g : α → List β} {a b : α} (ha : l[i]? = some a) (h : g b = g a) :
    (l.set i b).flatMap g = l.flatMap g := by
  rw [List.set_eq_modify]
  refine flatMap_modify_of_eq fun a' ha' => ?_
  obtain rfl : a = a' := Option.some.inj (ha.symm.trans ha')
  exact h

end

/-! ### Optional values -/

section

variable {α β γ δ : Type} {x : Option α} {y : Option β}

theorem rel_refl {r : α → α → Prop} (hr : ∀ a, r a a) (x : Option α) : Option.Rel r x x := by
  cases x with
  | none => exact Option.Rel.none
  | some a => exact Option.Rel.some (hr a)

theorem exists_of_rel_some {r : α → β → Prop} {b : β} (h : Option.Rel r x (some b)) :
    ∃ a, x = some a ∧ r a b := by
  cases h with
  | some hab => exact ⟨_, rfl, hab⟩

theorem rel_bind {r : α → β → Prop} {r' : γ → δ → Prop} (h : Option.Rel r x y)
    {f : α → Option γ} {g : β → Option δ} (hfg : ∀ a b, r a b → Option.Rel r' (f a) (g b)) :
    Option.Rel r' (x.bind f) (y.bind g) := by
  cases h with
  | none => exact Option.Rel.none
  | some hab => exact hfg _ _ hab

theorem map_eq_map_of_rel {r : α → β → Prop} (h : Option.Rel r x y) {f : α → γ} {g : β → γ}
    (hfg : ∀ a b, x = some a → r a b → f a = g b) : x.map f = y.map g := by
  cases h with
  | none => rfl
  | some hab => exact congrArg some (hfg _ _ rfl hab)

end

/-! ### One carrier -/

/-- Other attributes on one carrier, whether it is there or not. -/
def Elements.setAttrs (e : Elements) : Carrier → List Attribute → Elements
  | .field i, as => { e with fields := e.fields.modify i (Field.withAttrs as) }
  | .rest, as => { e with restAttrs := as }

variable {R : List Attribute → List Attribute → Prop}

/-- The same carriers are there, and the attributes of each are related. -/
structure Elements.Near (R : List Attribute → List Attribute → Prop) (e e' : Elements) : Prop where
  /-- What is there. -/
  isLive : ∀ c, e.isLive c = e'.isLive c
  /-- The attributes, also of what is not there. -/
  attrs? : ∀ c, Option.Rel R (e.attrs? c) (e'.attrs? c)

namespace Elements

theorem near_refl (hR : ∀ as, R as as) (e : Elements) : e.Near R e := by
  exact ⟨fun _ => rfl, fun c => rel_refl hR (e.attrs? c)⟩

/-- What is there carries related attributes. -/
theorem Near.liveAttrs? {e e' : Elements} (h : e.Near R e') (c : Carrier) :
    Option.Rel R (e.liveAttrs? c) (e'.liveAttrs? c) := by
  rw [Elements.liveAttrs?, Elements.liveAttrs?, ← h.isLive c]
  cases e.isLive c with
  | false => exact Option.Rel.none
  | true => exact h.attrs? c

/-- One field with related attributes, of which as much is there as before. -/
theorem near_modify (hR : ∀ as, R as as) {e : Elements} {i : Nat} {u : Field → Field}
    (h : ∀ f, e.fields[i]? = some f → (u f).isStripped = f.isStripped ∧ R f.attrs (u f).attrs) :
    e.Near R { e with fields := e.fields.modify i u } := by
  refine ⟨fun c => ?_, fun c => ?_⟩
  · cases c with
    | field j =>
        rw [Elements.isLive, Elements.isLive, List.getElem?_modify]
        cases hj : e.fields[j]? with
        | none => rfl
        | some f =>
            by_cases hij : i = j
            · subst hij
              simp [(h f hj).1]
            · simp [hij]
    | rest => rfl
  · cases c with
    | field j =>
        rw [Elements.attrs?, Elements.attrs?, List.getElem?_modify]
        cases hj : e.fields[j]? with
        | none => exact Option.Rel.none
        | some f =>
            by_cases hij : i = j
            · subst hij
              simpa using (h f hj).2
            · simpa [hij] using hR f.attrs
    | rest => exact Option.Rel.some (hR e.restAttrs)

theorem near_setAttrs (hR : ∀ as, R as as) {e : Elements} {c : Carrier} {as bs : List Attribute}
    (has : e.attrs? c = some as) (h : R as bs) : e.Near R (e.setAttrs c bs) := by
  cases c with
  | field i =>
      refine near_modify hR fun f hf => ?_
      obtain ⟨f', hf', rfl⟩ := Option.map_eq_some_iff.1 has
      obtain rfl : f = f' := Option.some.inj (hf.symm.trans hf')
      exact ⟨Field.isStripped_withAttrs f bs, by rwa [Field.attrs_withAttrs]⟩
  | rest =>
      obtain rfl : e.restAttrs = as := Option.some.inj has
      refine ⟨fun c => ?_, fun c => ?_⟩
      · cases c <;> rfl
      · cases c with
        | field i => exact (near_refl hR e).attrs? (.field i)
        | rest => exact Option.Rel.some h

end Elements

/-! ### One place in a pattern -/

/-- The attributes of one carrier, somewhere in a pattern, have been taken for related ones. -/
inductive Pattern.Alters (R : List Attribute → List Attribute → Prop) : Pattern → Pattern → Prop
  | here {path : ExprPath} {e : Elements} {c : Carrier} {as bs : List Attribute} :
      e.attrs? c = some as → R as bs → Alters R (.struct path e) (.struct path (e.setAttrs c bs))
  | deeper {p c c' : Pattern} {s : Step} :
      p.child? s = some c → Alters R c c' → Alters R p (p.setChild s c')

theorem Field.isStripped_withPattern {f : Field} {c : Pattern} (h : f.pattern? = some c)
    (c' : Pattern) : (f.withPattern c').isStripped = f.isStripped := by
  cases f with
  | shorthand x r m as s => rfl
  | _ => cases h; rfl

@[simp] theorem Field.attrs_withPattern (f : Field) (c : Pattern) :
    (f.withPattern c).attrs = f.attrs := by
  cases f <;> rfl

theorem Elements.pattern?_setAttrs (e : Elements) (c : Carrier) (as : List Attribute) (i : Nat) :
    (e.setAttrs c as).fields[i]?.bind Field.pattern? = e.fields[i]?.bind Field.pattern? := by
  cases c with
  | field j =>
      rw [setAttrs, List.getElem?_modify]
      cases e.fields[i]? with
      | none => rfl
      | some f => by_cases hij : j = i <;> simp [hij]
  | rest => rfl

/-- Replacing a sub-pattern leaves the carriers of the pattern itself as they are. -/
theorem Pattern.near_setChild (hR : ∀ as, R as as) {p c : Pattern} {s : Step}
    (h : p.child? s = some c) (c' : Pattern) :
    Option.Rel (Elements.Near R) p.elements? (p.setChild s c').elements? := by
  cases p with
  | struct path e =>
      cases s with
      | field i =>
          refine Option.Rel.some (Elements.near_modify hR fun f hf => ?_)
          have hc : f.pattern? = some c := by simpa [child?, hf] using h
          refine ⟨Field.isStripped_withPattern hc c', ?_⟩
          rw [Field.attrs_withPattern]
          exact hR f.attrs
      | _ => cases h
  | tupleStruct path items => cases items <;> exact Option.Rel.none
  | tuple items sp => cases items <;> exact Option.Rel.none
  | _ => cases s <;> exact Option.Rel.none

/-- **What stands at a place before and after**: the same carriers, with related attributes. -/
theorem Pattern.Alters.near (hR : ∀ as, R as as) {p q : Pattern} (h : p.Alters R q)
    (steps : List Step) :
    Option.Rel (Elements.Near R) ((p.get? steps).bind Pattern.elements?)
      ((q.get? steps).bind Pattern.elements?) := by
  induction h generalizing steps with
  | here has hab =>
      cases steps with
      | nil => exact Option.Rel.some (Elements.near_setAttrs hR has hab)
      | cons s steps =>
          -- no step sees the attributes
          rename_i path e c as bs
          have hchild : (Pattern.struct path (e.setAttrs c bs)).child? s =
              (Pattern.struct path e).child? s := by
            cases s with
            | field i => exact Elements.pattern?_setAttrs e c bs i
            | _ => rfl
          rw [get?, get?, hchild]
          exact rel_refl (Elements.near_refl hR) _
  | @deeper p c c' s hc _ ih =>
      cases steps with
      | nil => exact Pattern.near_setChild hR hc c'
      | cons t steps =>
          rw [get?, get?]
          -- only the step that leads to the altered sub-pattern can see a difference
          by_cases hst : s = t
          · subst hst
            rw [hc, Pattern.child?_setChild hc]
            exact ih steps
          · rw [Pattern.child?_setChild_of_ne hst]
            exact rel_refl (Elements.near_refl hR) _

/-- At every place the attributes are related. -/
theorem Pattern.Alters.liveAttrs? (hR : ∀ as, R as as) {p q : Pattern} (h : p.Alters R q)
    (steps : List Step) (c : Carrier) :
    Option.Rel R (p.liveAttrs? steps c) (q.liveAttrs? steps c) :=
  rel_bind (h.near hR steps) fun _ _ hn => hn.liveAttrs? c

/-- Every attribute that there is afterwards is among attributes related to some of before. -/
theorem Pattern.Alters.exists_of_mem (hR : ∀ as, R as as) {p q : Pattern} (h : p.Alters R q)
    {b : Attribute} (hb : b ∈ q.attributes) :
    ∃ as bs, as ⊆ p.attributes ∧ R as bs ∧ b ∈ bs := by
  obtain ⟨path, e', ho, hbe⟩ := Pattern.exists_of_mem_collect _ hb
  obtain ⟨steps, hq⟩ := Pattern.occurs_iff_get?.1 ho
  have hnear := h.near hR steps
  rw [hq] at hnear
  obtain ⟨e, he, hn⟩ := exists_of_rel_some hnear
  obtain ⟨r, hr, he⟩ := Option.bind_eq_some_iff.1 he
  obtain ⟨path₀, rfl⟩ := Pattern.elements?_eq_some he
  have ho₀ : Pattern.Occurs (.struct path₀ e) p := Pattern.occurs_iff_get?.2 ⟨steps, hr⟩
  -- the attribute is on a carrier between the braces, and that one had related attributes
  have hcarrier : ∃ c bs, e'.attrs? c = some bs ∧ b ∈ bs := by
    rcases hbe with ⟨f, hf, hbf⟩ | hbr
    · obtain ⟨i, hi⟩ := List.mem_iff_getElem?.1 hf
      exact ⟨.field i, f.attrs, by rw [Elements.attrs?, hi, Option.map_some], hbf⟩
    · exact ⟨.rest, e'.restAttrs, rfl, hbr⟩
  obtain ⟨c, bs, hbs, hmem⟩ := hcarrier
  have hattrs := hn.attrs? c
  rw [hbs] at hattrs
  obtain ⟨as, has, hrel⟩ := exists_of_rel_some hattrs
  exact ⟨as, bs, ho₀.attrs?_subset has, hrel, hmem⟩

/-! ### Collections -/

section

variable {α : Type} {g : Collector α}

theorem Items.flatMap_setChild {G : Pattern → List α} {items : Items} {s : Step} {c c' : Pattern}
    (h : items.child? s = some c) (hc : G c' = G c) :
    (items.setChild s c').patterns.flatMap G = items.patterns.flatMap G := by
  cases items with
  | flat ps sp =>
      cases s with
      | item i => exact flatMap_set_of_eq h hc
      | _ => rfl
  | ranged ls us sp =>
      cases s with
      | lower i =>
          have hls : (ls.set i c').flatMap G = ls.flatMap G := flatMap_set_of_eq h hc
          simp [setChild, patterns, hls]
      | upper i =>
          have hus : (us.set i c').flatMap G = us.flatMap G := flatMap_set_of_eq h hc
          simp [setChild, patterns, hus]
      | _ => rfl

/-- A collection from a field that does not see its own attributes changing. -/
theorem Field.collect_congr {f f' : Field} (hat : g.atField f' = g.atField f)
    (henters : g.enters f' = g.enters f)
    (hp : Pattern.collectOption g f'.pattern? = Pattern.collectOption g f.pattern?) :
    f'.collect g = f.collect g := by
  rw [Field.collect_eq, Field.collect_eq, hat, henters, hp]

/-- **A collection that does not see the change of a sub-pattern**, neither below nor in the field
that the sub-pattern is in. -/
theorem Pattern.collect_setChild {p c c' : Pattern} {s : Step} (h : p.child? s = some c)
    (hc : c'.collect g = c.collect g)
    (hfield : ∀ f : Field, f.pattern? = some c →
      g.atField (f.withPattern c') = g.atField f ∧ g.enters (f.withPattern c') = g.enters f) :
    (p.setChild s c').collect g = p.collect g := by
  cases p with
  | struct path e =>
      cases s with
      | field i =>
          rw [setChild, Pattern.collect_struct, Pattern.collect_struct]
          congr 1
          refine flatMap_modify_of_eq fun f hf => ?_
          have hp : f.pattern? = some c := by simpa [child?, hf] using h
          refine Field.collect_congr (hfield f hp).1 (hfield f hp).2 ?_
          rw [Field.pattern?_withPattern hp, hp]
          exact hc
      | _ => cases h
  | ident x r m bind sp =>
      cases s with
      | bind =>
          obtain rfl : bind = some c := h
          exact hc
      | _ => cases h
  | reference q a m sp =>
      cases s with
      | inner =>
          obtain rfl : q = c := Option.some.inj h
          exact hc
      | _ => cases h
  | grouped q sp =>
      cases s with
      | inner =>
          obtain rfl : q = c := Option.some.inj h
          exact hc
      | _ => cases h
  | slice ps sp =>
      cases s with
      | item i =>
          simp only [setChild, Pattern.collect, Pattern.collectAll_eq_flatMap]
          exact flatMap_set_of_eq h hc
      | _ => cases h
  | tupleStruct path items =>
      cases items with
      | none => cases h
      | some items =>
          simpa [setChild, Pattern.collect, Items.collectOption_eq_flatMap] using
            Items.flatMap_setChild (s := s) h hc
  | tuple items sp =>
      cases items with
      | none => cases h
      | some items =>
          simpa [setChild, Pattern.collect, Items.collectOption_eq_flatMap] using
            Items.flatMap_setChild (s := s) h hc
  | literal v m sp => cases h
  | wildcard sp => cases h
  | range l u e sp => cases h

end

end SurfaceTree
