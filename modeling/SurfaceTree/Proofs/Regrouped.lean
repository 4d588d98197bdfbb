/-
Several conditions on one carrier mean their conjunction, whatever their order.

Conditions are read from left to right and reading stops at the first that is false, whereas the
operands of a conjunction are all read before any is asked for its truth.  Where every attribute
makes sense the difference cannot be seen: a configuration finds out of the attributes of a carrier
whether one of them is refuted, and which of them state no condition.

Main definitions:

* `Attribute.each`, `Attribute.together` — conditions one by one, and their conjunction;
* `Config.Regroups` — attributes in another order, or with one conjunction for all conditions;
* `Config.digest` — what a configuration finds out of attributes, up to their order;
* `Pattern.Regrouped` — a pattern with regrouped attributes on any carriers, anywhere.

Main results:

* `Config.refutes_together` — a conjunction is refuted exactly if one of its operands is;
* `Pattern.Alters.sound`, `Pattern.Alters.losses_eq`, `Pattern.Alters.digest_eq` — **regrouping on
  one carrier**: everything makes sense as before, the same is lost, and the digests stay the same;
* `Pattern.liveAttrs?_settle_of_digest` — equal digests everywhere lead to equal results;
* `Pattern.configure_of_regrouped` — **regrouping anywhere**.
-/

import Mathlib.Data.Multiset.Basic
import Mathlib.Logic.Relation
import SurfaceTree.Proofs.Altered
import SurfaceTree.Proofs.Settled

set_option relaxedAutoImplicit false
set_option autoImplicit false

namespace SurfaceTree

/-! ### Attributes of one carrier -/

namespace Attribute

/-- The attribute `#[cfg(m)]`. -/
def stating (m : MetaItem) (s : Span) : Attribute :=
  ⟨.list (.single Config.Predicate.attributeName) [m], s⟩

/-- An attribute for each of some conditions. -/
def each (ms : List (MetaItem × Span)) : List Attribute := ms.map fun m => stating m.1 m.2

@[simp] theorem each_cons (m : MetaItem × Span) (ms : List (MetaItem × Span)) :
    each (m :: ms) = stating m.1 m.2 :: each ms := rfl

/-- One attribute for the conjunction of some conditions. -/
def together (ms : List (MetaItem × Span)) (s : Span) : Attribute :=
  stating (.list (.single "all") (ms.map Prod.fst)) s

end Attribute

namespace Config

/-- The attributes that state conditions. -/
def conditions (as : List Attribute) : List Attribute :=
  as.filter fun a => a.hasName Predicate.attributeName

/-- The attributes of a carrier in another order, or with one attribute that states the conjunction
of all conditions in the place of all attributes that state one.  Where there is none, the empty
conjunction may be added. -/
inductive Regroups (as : List Attribute) : List Attribute → Prop
  | permute {bs : List Attribute} : as.Perm bs → Regroups as bs
  | gather (ms : List (MetaItem × Span)) (s : Span) :
      conditions as = Attribute.each ms → Regroups as (.together ms s :: settled as)

/-- All attributes make sense. -/
def Sound (as : List Attribute) : Prop := ∀ a ∈ as, ∃ r, Predicate.ofAttribute a = .ok r

/-- What a configuration finds out of the attributes of a carrier: whether one of them states a
false condition, and which of them state none, in any order. -/
def digest (o : Options) (as : List Attribute) : Bool × Multiset Attribute :=
  (as.any (refutes o), settled as)

variable {as bs : List Attribute}

theorem Sound.subset (h : Sound as) (hs : bs ⊆ as) : Sound bs := fun b hb => h b (hs hb)

theorem ofAttribute_stating (m : MetaItem) (s : Span) :
    Predicate.ofAttribute (.stating m s) = (Predicate.ofMeta m).map some := by
  have hn : (Attribute.stating m s).hasName Predicate.attributeName = true := rfl
  rw [Predicate.ofAttribute, if_pos hn]
  rfl

theorem any_refutes_conditions (o : Options) (as : List Attribute) :
    (conditions as).any (refutes o) = as.any (refutes o) := by
  have h : ∀ a, (a.hasName Predicate.attributeName && refutes o a) = refutes o a := by
    intro a
    cases hn : a.hasName Predicate.attributeName with
    | true => rfl
    | false => rw [refutes, ofAttribute_of_hasName hn, Bool.false_and]
  rw [conditions, List.any_filter]
  simp only [h]

/-- Operands that make sense are read, and they all hold exactly if none of them is refuted. -/
theorem ofMetas_of_sound {ms : List (MetaItem × Span)} (h : Sound (Attribute.each ms)) :
    ∃ ps, Predicate.ofMetas (ms.map Prod.fst) = .ok ps ∧
      ∀ o, Predicate.allHold o ps = !(Attribute.each ms).any (refutes o) := by
  induction ms with
  | nil => exact ⟨[], rfl, fun _ => rfl⟩
  | cons m ms ih =>
      obtain ⟨ps, hps, hall⟩ := ih (h.subset (List.subset_cons_self _ _))
      obtain ⟨r, hr⟩ := h _ List.mem_cons_self
      have hstating := ofAttribute_stating m.1 m.2
      cases hm : Predicate.ofMeta m.1 with
      | error e =>
          rw [hstating, hm] at hr
          cases hr
      | ok p =>
          refine ⟨p :: ps, ?_, fun o => ?_⟩
          · rw [List.map_cons, Predicate.ofMetas, hm, hps]
            rfl
          · have hrefutes : refutes o (.stating m.1 m.2) = !p.holds o := by
              rw [refutes, hstating, hm]
              rfl
            rw [Predicate.allHold, hall, Attribute.each_cons, List.any_cons, hrefutes,
              Bool.not_or, Bool.not_not]

/-- A conjunction of conditions that make sense makes sense. -/
theorem ofAttribute_together {ms : List (MetaItem × Span)} (s : Span) (h : Sound (Attribute.each ms)) :
    ∃ ps, Predicate.ofAttribute (.together ms s) = .ok (some (.all ps)) ∧
      ∀ o, Predicate.allHold o ps = !(Attribute.each ms).any (refutes o) := by
  obtain ⟨ps, hps, hall⟩ := ofMetas_of_sound h
  refine ⟨ps, ?_, hall⟩
  have hname : Predicate.nameOf (.single "all") = .ok "all" := rfl
  rw [Attribute.together, ofAttribute_stating, Predicate.ofMeta, hname, hps]
  rfl

/-- **A conjunction is refuted exactly if one of its operands is.** -/
theorem refutes_together (o : Options) {ms : List (MetaItem × Span)} (s : Span)
    (h : Sound (Attribute.each ms)) :
    refutes o (.together ms s) = (Attribute.each ms).any (refutes o) := by
  obtain ⟨ps, hps, hall⟩ := ofAttribute_together s h
  rw [refutes, hps]
  change (!Predicate.allHold o ps) = _
  rw [hall, Bool.not_not]

namespace Regroups

protected theorem refl (as : List Attribute) : Regroups as as := .permute (List.Perm.refl as)

theorem sound (h : Regroups as bs) (has : Sound as) : Sound bs := by
  cases h with
  | permute hp => exact has.subset hp.symm.subset
  | gather ms s hms =>
      have hsound : Sound (Attribute.each ms) := hms ▸ has.subset (List.filter_subset_self as)
      intro b hb
      rcases List.mem_cons.1 hb with rfl | hb
      · obtain ⟨ps, hps, -⟩ := ofAttribute_together s hsound
        exact ⟨_, hps⟩
      · exact has b (List.mem_of_mem_filter hb)

/-- Regrouping does not change what a configuration finds out. -/
theorem digest_eq (o : Options) (h : Regroups as bs) (has : Sound as) :
    digest o bs = digest o as := by
  cases h with
  | permute hp =>
      have hsettled : (settled bs).Perm (settled as) := hp.symm.filter _
      exact Prod.ext hp.symm.any_eq (Multiset.coe_eq_coe.2 hsettled)
  | gather ms s hms =>
      have hsound : Sound (Attribute.each ms) := hms ▸ has.subset (List.filter_subset_self as)
      have hrest : (settled as).any (refutes o) = false :=
        any_refutes_of_hasName o fun a => hasName_of_mem_settled
      have hsettled : settled (settled as) = settled as :=
        settled_eq_self fun a => hasName_of_mem_settled
      refine Prod.ext ?_ ?_
      · change (_ || (settled as).any (refutes o)) = as.any (refutes o)
        rw [refutes_together o s hsound, hrest, Bool.or_false, ← hms, any_refutes_conditions]
      · change ((settled (settled as) : List Attribute) : Multiset Attribute) = settled as
        rw [hsettled]

end Regroups

end Config

open Config

/-! ### One carrier in a pattern -/

variable {o : Options} {p q : Pattern}

/-- **Everything makes sense as before.** -/
theorem Pattern.Alters.sound (h : p.Alters Regroups q) (hp : Sound p.attributes) :
    Sound q.attributes := by
  intro b hb
  obtain ⟨as, bs, has, hr, hbs⟩ := h.exists_of_mem Regroups.refl hb
  exact hr.sound (hp.subset has) b hbs

/-- **The digests stay the same.** -/
theorem Pattern.Alters.digest_eq (o : Options) (h : p.Alters Regroups q)
    (hp : Sound p.attributes) (steps : List Step) (c : Carrier) :
    (p.liveAttrs? steps c).map (digest o) = (q.liveAttrs? steps c).map (digest o) := by
  refine map_eq_map_of_rel (h.liveAttrs? Regroups.refl steps c) fun as bs has hr => ?_
  exact (hr.digest_eq o (hp.subset (Pattern.liveAttrs?_subset has))).symm

/-- **The same is lost.** -/
theorem Pattern.Alters.losses_eq (o : Options) (h : p.Alters Regroups q)
    (hp : Sound p.attributes) : q.losses o = p.losses o := by
  induction h with
  | @here path e c as bs has hr =>
      have hsound : Sound as := hp.subset (Pattern.Occurs.self.attrs?_subset has)
      have hany : bs.any (refutes o) = as.any (refutes o) :=
        congrArg Prod.fst (hr.digest_eq o hsound)
      rw [losses, losses, Pattern.collect_struct, Pattern.collect_struct]
      cases c with
      | field i =>
          obtain ⟨f, hf, rfl⟩ := Option.map_eq_some_iff.1 has
          -- the loss of a field hangs on whether it is refuted, and so does the way below it
          congr 1
          refine flatMap_modify_of_eq fun f' hf' => ?_
          obtain rfl : f = f' := Option.some.inj (hf.symm.trans hf')
          refine Field.collect_congr ?_ ?_ ?_
          · rw [atField_losing, atField_losing, Field.isStripped_withAttrs, Field.attrs_withAttrs,
              hany]
          · rw [enters_losing, enters_losing, Field.attrs_withAttrs, hany]
          · rw [Field.pattern?_withAttrs]
      | rest =>
          obtain rfl : e.restAttrs = as := Option.some.inj has
          rw [atRest_losing, atRest_losing, Elements.setAttrs, hany]
  | @deeper p c c' s hc _ ih =>
      have hsub : c.attributes ⊆ p.attributes :=
        Pattern.attributes_subset_of_mem (Pattern.mem_children_iff.2 ⟨s, hc⟩)
      refine Pattern.collect_setChild hc (ih (hp.subset hsub)) fun f hf => ⟨?_, ?_⟩
      · rw [atField_losing, atField_losing, Field.isStripped_withPattern hf,
          Field.attrs_withPattern]
      · rw [enters_losing, enters_losing, Field.attrs_withPattern]

/-! ### From digests to results -/

theorem Config.map_left? (o : Options) (as : List Attribute) :
    (left? o as).map Multiset.ofList =
      if (digest o as).1 then none else some (digest o as).2 := by
  cases hr : as.any (refutes o) with
  | true => simp [left?, digest, hr]
  | false => simp [left?, digest, hr]

/-- What is left of a carrier is found out by its digest. -/
theorem Config.map_bind_left? (o : Options) {x y : Option (List Attribute)}
    (h : x.map (digest o) = y.map (digest o)) :
    (x.bind (left? o)).map Multiset.ofList =
      (y.bind (left? o)).map Multiset.ofList := by
  have hbind : ∀ z : Option (List Attribute),
      (z.bind (left? o)).map Multiset.ofList =
        (z.map (digest o)).bind fun d => if d.1 then none else some d.2 := by
    intro z
    cases z with
    | none => rfl
    | some as => exact map_left? o as
  rw [hbind, hbind, h]

theorem Pattern.opens_of_digest (o : Options) {s : Step}
    (h : ∀ c, (p.liveAttrs? [] c).map (digest o) = (q.liveAttrs? [] c).map (digest o)) :
    p.opens o s = q.opens o s := by
  cases s with
  | field i =>
      have hleft := congrArg Option.isSome (map_bind_left? o (h (.field i)))
      rwa [Option.isSome_map, Option.isSome_map] at hleft
  | _ => rfl

/-- Nothing is there after a configuration that was not there before. -/
theorem Pattern.liveAttrs?_settle_eq_none (o : Options) {steps : List Step} {c : Carrier}
    (h : p.liveAttrs? steps c = none) : (p.settle o).liveAttrs? steps c = none := by
  induction steps generalizing p with
  | nil => rw [Pattern.liveAttrs?_settle_nil, h, Option.bind_none]
  | cons s steps ih =>
      rw [Pattern.liveAttrs?_cons] at h
      rw [Pattern.liveAttrs?_settle_cons]
      split
      · cases hc : p.child? s with
        | none => rfl
        | some q =>
            rw [hc] at h
            exact ih h
      · rfl

/-- **Equal digests everywhere lead to equal results**, up to the order of attributes. -/
theorem Pattern.liveAttrs?_settle_of_digest (o : Options)
    (h : ∀ steps c, (p.liveAttrs? steps c).map (digest o) = (q.liveAttrs? steps c).map (digest o))
    (steps : List Step) (c : Carrier) :
    ((p.settle o).liveAttrs? steps c).map Multiset.ofList =
      ((q.settle o).liveAttrs? steps c).map Multiset.ofList := by
  induction steps generalizing p q with
  | nil =>
      rw [Pattern.liveAttrs?_settle_nil, Pattern.liveAttrs?_settle_nil]
      exact map_bind_left? o (h [] c)
  | cons s steps ih =>
      have hbelow : ∀ steps c, ((p.child? s).bind (·.liveAttrs? steps c)).map (digest o) =
          ((q.child? s).bind (·.liveAttrs? steps c)).map (digest o) := by
        intro steps c
        rw [← Pattern.liveAttrs?_cons, ← Pattern.liveAttrs?_cons]
        exact h (s :: steps) c
      rw [Pattern.liveAttrs?_settle_cons, Pattern.liveAttrs?_settle_cons,
        Pattern.opens_of_digest o (h [])]
      split
      · -- a sub-pattern in which nothing is there counts for as much as none
        cases hp : p.child? s with
        | none =>
            cases hq : q.child? s with
            | none => rfl
            | some d =>
                have hd := hbelow steps c
                rw [hp, hq] at hd
                have hnone : d.liveAttrs? steps c = none := Option.map_eq_none_iff.1 hd.symm
                simp [Pattern.liveAttrs?_settle_eq_none o hnone]
        | some d =>
            cases hq : q.child? s with
            | none =>
                have hd := hbelow steps c
                rw [hp, hq] at hd
                have hnone : d.liveAttrs? steps c = none := Option.map_eq_none_iff.1 hd
                simp [Pattern.liveAttrs?_settle_eq_none o hnone]
            | some d' =>
                rw [hp, hq] at hbelow
                exact ih hbelow
      · rfl

/-! ### Regrouping anywhere -/

/-- The attributes of some carriers, anywhere in the pattern, have been regrouped. -/
def Pattern.Regrouped (p q : Pattern) : Prop := Relation.ReflTransGen (Pattern.Alters Regroups) p q

theorem Pattern.Regrouped.invariant (o : Options) (h : p.Regrouped q) (hp : Sound p.attributes) :
    Sound q.attributes ∧ q.losses o = p.losses o ∧
      ∀ steps c, (p.liveAttrs? steps c).map (digest o) = (q.liveAttrs? steps c).map (digest o) := by
  induction h with
  | refl => exact ⟨hp, rfl, fun _ _ => rfl⟩
  | tail _ hstep ih =>
      -- one step needs that everything makes sense before it, which the steps so far have kept
      obtain ⟨hsound, hlosses, hdigest⟩ := ih
      refine ⟨hstep.sound hsound, (hstep.losses_eq o hsound).trans hlosses, fun steps c => ?_⟩
      exact (hdigest steps c).trans (hstep.digest_eq o hsound steps c)

theorem Pattern.configure_of_sound (o : Options) (hp : Sound p.attributes) :
    p.configure o = .ok (p.settle o, (p.losses o).sum) := by
  have hseen : Sound (p.examined o) := hp.subset (Pattern.examined_subset_attributes o p)
  exact Pattern.configure_eq_ok_iff.2 ⟨hseen, rfl, rfl⟩

/-- **Regrouping anywhere.**  A pattern whose attributes all make sense and one in which some of them
have been regrouped are both configured, lose as many fields and rest markers as each other, and
what is there afterwards is there in both, with the same attributes up to their order. -/
theorem Pattern.configure_of_regrouped (o : Options) (hp : Sound p.attributes)
    (h : p.Regrouped q) :
    ∃ p' q' n, p.configure o = .ok (p', n) ∧ q.configure o = .ok (q', n) ∧
      ∀ steps c, Option.Rel List.Perm (p'.liveAttrs? steps c) (q'.liveAttrs? steps c) := by
  obtain ⟨hq, hlosses, hdigest⟩ := h.invariant o hp
  refine ⟨p.settle o, q.settle o, (p.losses o).sum, Pattern.configure_of_sound o hp, ?_, ?_⟩
  · rw [Pattern.configure_of_sound o hq, hlosses]
  · intro steps c
    have heq := Pattern.liveAttrs?_settle_of_digest o hdigest steps c
    cases hps : (p.settle o).liveAttrs? steps c with
    | none =>
        rw [hps] at heq
        rw [Option.map_eq_none_iff.1 heq.symm]
        exact Option.Rel.none
    | some as =>
        rw [hps] at heq
        obtain ⟨bs, hbs, hcoe⟩ := Option.map_eq_some_iff.1 heq.symm
        rw [hbs]
        exact Option.Rel.some (Multiset.coe_eq_coe.1 hcoe).symm

/-- The pattern `{ a: { b, .. } }`, in which `b` has two conditions and another attribute. -/
def Pattern.twofold : Pattern :=
  .braces ⟨[.named ⟨"a"⟩ (some (.braces ⟨[.shorthand ⟨"b"⟩ false false
    [.condition "unix", .word "inline", .condition "test"] .dummy], true, [.condition "unix"]⟩))
      [] .dummy], false, []⟩

/-- The same with one condition on `b`, behind the other attribute. -/
def Pattern.onefold : Pattern :=
  .braces ⟨[.named ⟨"a"⟩ (some (.braces ⟨[.shorthand ⟨"b"⟩ false false
    [.word "inline", .together [(.word (.single "unix"), .dummy), (.word (.single "test"), .dummy)]
      .dummy] .dummy], true, [.condition "unix"]⟩)) [] .dummy], false, []⟩

theorem Pattern.regrouped_twofold : Pattern.twofold.Regrouped .onefold := by
  have hgather : Pattern.twofold.Alters Regroups _ :=
    .deeper (s := .field 0) rfl (.here (c := .field 0) rfl
      (.gather [(.word (.single "unix"), .dummy), (.word (.single "test"), .dummy)] .dummy rfl))
  refine (Relation.ReflTransGen.single hgather).tail ?_
  exact .deeper (s := .field 0) rfl (.here (c := .field 0) rfl (.permute (List.Perm.swap ..)))

theorem Pattern.configure_twofold_onefold :
    ∃ p' q' n, Pattern.twofold.configure ⟨{"unix"}, ∅⟩ = .ok (p', n) ∧
      Pattern.onefold.configure ⟨{"unix"}, ∅⟩ = .ok (q', n) ∧
      ∀ steps c, Option.Rel List.Perm (p'.liveAttrs? steps c) (q'.liveAttrs? steps c) := by
  refine Pattern.configure_of_regrouped ⟨{"unix"}, ∅⟩ ?_ Pattern.regrouped_twofold
  intro a ha
  have ha : a ∈ [.condition "unix", .word "inline", .condition "test", .condition "unix"] := ha
  simp only [List.mem_cons, List.not_mem_nil, or_false] at ha
  rcases ha with rfl | rfl | rfl | rfl <;> exact ⟨_, rfl⟩

end SurfaceTree
