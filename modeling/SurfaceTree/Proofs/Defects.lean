/-
What is wrong with a meta item, and what its reading answers.

Reading stops at the first defect that it meets.  Here all defects of a meta item are written down,
in an order that does not know when reading stops: what is wrong with the name of an item comes
before what is wrong below it, and what the name means there comes last.  Reading answers with the
first of them; if there is none, it gives the condition that is the meta item in other words, and so
every condition on names of options can be read.

Main definitions:

* `SimplePath.nameDefects`, `Config.operatorDefects` — what is wrong with a path that should be a
  name, and with an operator on a number of operands;
* `MetaItem.defects` — **all that is wrong with a meta item**;
* `Config.Predicate.IsNamed` — a condition is about names of options only;
* `Config.Reports` — an answer is the first of some defects, or a result.

Main results:

* `Config.Predicate.reports_ofMeta` — **what reading a meta item answers**, by induction along its
  items;
* `Config.Predicate.ofMeta_iff_defects` — success and failure, told apart by the defects;
* `Config.Predicate.ofMeta_faithful` — **reading keeps all but spans and suffixes**.
-/

import SurfaceTree.Proofs.Named
import SurfaceTree.Proofs.Written

set_option relaxedAutoImplicit false
set_option autoImplicit false

namespace SurfaceTree

open Config

/-! ### All defects -/

/-- What is wrong with a path that should be a name: it has to have one segment, and that has to be
a name of an option. -/
def SimplePath.nameDefects (p : SimplePath) : List ConfigError :=
  if p.segments.length = 1 ∧ ∀ x ∈ p.segments, IsName x.text then [] else [.invalidName p.render]

/-- What is wrong with an operator that is applied to a number of operands. -/
def Config.operatorDefects (operator : String) (count : Nat) : List ConfigError :=
  if operator = "all" ∨ operator = "any" then []
  else if operator = "not" then (if count = 1 then [] else [.notArity count])
  else [.unknownOperator operator]

namespace MetaItem

mutual

/-- **All that is wrong with a meta item.**  The name of an item comes first, then its value or its
operands from left to right, and what the name means to the operands comes last. -/
def defects : MetaItem → List ConfigError
  | .word p => p.nameDefects
  | .nameValue p v => p.nameDefects ++ if v.kind = .text then [] else [.nonTextValue p.render]
  | .list p ms => p.nameDefects ++ (defectsAll ms ++ operatorDefects p.render ms.length)
  | .literal v => [.literalPredicate v.render]

/-- All that is wrong with the meta items of a list, one after another. -/
def defectsAll : List MetaItem → List ConfigError
  | [] => []
  | m :: ms => m.defects ++ defectsAll ms

end

theorem defectsAll_eq_flatMap (ms : List MetaItem) : defectsAll ms = ms.flatMap defects := by
  induction ms with
  | nil => rfl
  | cons m ms ih => rw [defectsAll, ih, List.flatMap_cons]

/-- Nothing is wrong with a list if nothing is wrong with its name, with any of its items, and with
what the name means to so many of them. -/
theorem defects_list_eq_nil_iff {path : SimplePath} {ms : List MetaItem} :
    (list path ms).defects = [] ↔
      path.nameDefects = [] ∧ (∀ m ∈ ms, m.defects = []) ∧
        operatorDefects path.render ms.length = [] := by
  rw [defects, List.append_eq_nil_iff, List.append_eq_nil_iff, defectsAll_eq_flatMap,
    List.flatMap_eq_nil_iff]

/-- Spans and suffixes are never wrong. -/
theorem defects_bare_eq_nil_iff (m : MetaItem) : m.bare.defects = [] ↔ m.defects = [] := by
  induction m using MetaItem.induction with
  | word p => exact Iff.rfl
  | nameValue p v => exact Iff.rfl
  | list p ms ih =>
      have hms : (∀ m ∈ ms.map bare, m.defects = []) ↔ ∀ m ∈ ms, m.defects = [] := by
        rw [List.forall_mem_map]
        exact forall₂_congr ih
      rw [bare, defects_list_eq_nil_iff, defects_list_eq_nil_iff, bareAll_eq_map, hms,
        List.length_map]
  | literal v => simp [bare, defects]

end MetaItem

/-- A path is a name exactly if nothing is wrong with it. -/
theorem SimplePath.nameDefects_eq_nil_iff {p : SimplePath} :
    p.nameDefects = [] ↔ ∃ name, p = .single name ∧ IsName name := by
  obtain ⟨segments⟩ := p
  rw [nameDefects, ite_eq_left_iff]
  constructor
  · intro h
    have hname : segments.length = 1 ∧ ∀ x ∈ segments, IsName x.text := by
      by_contra hn
      cases h hn
    obtain ⟨x, rfl⟩ := List.length_eq_one_iff.1 hname.1
    exact ⟨x.text, rfl, hname.2 x List.mem_cons_self⟩
  · rintro ⟨name, hp, hname⟩ hn
    obtain rfl : segments = [⟨name⟩] := congrArg SimplePath.segments hp
    refine absurd ⟨rfl, fun x hx => ?_⟩ hn
    rw [List.mem_singleton.1 hx]
    exact hname

/-! ### Answers -/

namespace Config

variable {α β : Type} {answer : Except ConfigError α} {ds es : List ConfigError} {P : α → Prop}
  {Q : β → Prop}

/-- An answer reports some defects: it fails with the first of them, or there is none and it gives a
result of the right kind. -/
def Reports (answer : Except ConfigError α) (ds : List ConfigError) (P : α → Prop) : Prop :=
  match answer with
  | .ok a => ds = [] ∧ P a
  | .error e => ds.head? = some e

/-- What is done with a result is asked for only if nothing was wrong before. -/
theorem Reports.bind (h : Reports answer ds P) {next : α → Except ConfigError β}
    (hnext : ∀ a, P a → Reports (next a) es Q) : Reports (answer >>= next) (ds ++ es) Q := by
  cases answer with
  | error e =>
      have hhead : ds.head? = some e := h
      change (ds ++ es).head? = some e
      rw [List.head?_append, hhead]
      rfl
  | ok a =>
      obtain ⟨rfl, ha⟩ := h
      exact hnext a ha

theorem Reports.map (h : Reports answer ds P) {f : α → β} (hf : ∀ a, P a → Q (f a)) :
    Reports (answer.map f) ds Q := by
  cases answer with
  | error e => exact h
  | ok a => exact ⟨h.1, hf a h.2⟩

theorem Reports.eq_error_iff (h : Reports answer ds P) {e : ConfigError} :
    answer = .error e ↔ ds.head? = some e := by
  cases answer with
  | error d =>
      have hhead : ds.head? = some d := h
      rw [hhead, Except.error.injEq, Option.some.injEq]
  | ok a => simp [h.1]

theorem Reports.exists_ok_iff (h : Reports answer ds P) : (∃ a, answer = .ok a) ↔ ds = [] := by
  cases answer with
  | error d =>
      have hhead : ds.head? = some d := h
      constructor
      · rintro ⟨a, ha⟩
        cases ha
      · rintro rfl
        cases hhead
  | ok a => exact ⟨fun _ => h.1, fun _ => ⟨a, rfl⟩⟩

theorem Reports.of_eq_ok (h : Reports answer ds P) {a : α} (ha : answer = .ok a) : P a := by
  subst ha
  exact h.2

namespace Predicate

/-- A condition is about names of options only. -/
def IsNamed (p : Predicate) : Prop := ∀ f ∈ p.flags, IsName f.name

/-! ### Reading, part by part -/

theorem reports_nameOf (p : SimplePath) :
    Reports (nameOf p) p.nameDefects fun name => p = .single name ∧ IsName name := by
  obtain ⟨segments⟩ := p
  match segments with
  | [] => rfl
  | [x] =>
      have hcheck : isName x.text.toList = true ↔ IsName x.text := isName_iff
      by_cases hx : IsName x.text
      · have hname : nameOf ⟨[x]⟩ = .ok x.text := if_pos (hcheck.2 hx)
        rw [hname]
        exact ⟨SimplePath.nameDefects_eq_nil_iff.2 ⟨x.text, rfl, hx⟩, rfl, hx⟩
      · have hname : nameOf ⟨[x]⟩ = .error (.invalidName (SimplePath.render ⟨[x]⟩)) :=
          if_neg fun h => hx (hcheck.1 h)
        rw [hname]
        simp [Reports, SimplePath.nameDefects, hx]
  | x :: y :: zs => simp [Reports, SimplePath.nameDefects, nameOf, SimplePath.ident?]

theorem reports_apply (operator : String) (ps : List Predicate) (hps : ∀ p ∈ ps, p.IsNamed) :
    Reports (apply operator ps) (operatorDefects operator ps.length) fun p =>
      p.item = .list (.single operator) (ps.map item) ∧ p.IsNamed := by
  by_cases hall : operator = "all"
  · subst hall
    exact ⟨rfl, by rw [item, itemAll_eq_map], forall_flagsAll_iff.2 hps⟩
  by_cases hany : operator = "any"
  · subst hany
    exact ⟨rfl, by rw [item, itemAll_eq_map], forall_flagsAll_iff.2 hps⟩
  by_cases hnot : operator = "not"
  · subst hnot
    match ps with
    | [] => rfl
    | [p] => exact ⟨rfl, rfl, hps p List.mem_cons_self⟩
    | p :: q :: ps => simp [Reports, operatorDefects, apply]
  · simp [Reports, operatorDefects, apply, hall, hany, hnot]

theorem reports_ofMetas (ms : List MetaItem)
    (h : ∀ m ∈ ms, Reports (ofMeta m) m.defects fun p => p.item = m.bare ∧ p.IsNamed) :
    Reports (ofMetas ms) (MetaItem.defectsAll ms) fun ps =>
      ps.map item = ms.map MetaItem.bare ∧ ∀ p ∈ ps, p.IsNamed := by
  induction ms with
  | nil => exact ⟨rfl, rfl, by simp⟩
  | cons m ms ih =>
      obtain ⟨hm, hms⟩ := List.forall_mem_cons.1 h
      rw [ofMetas, MetaItem.defectsAll, ← List.append_nil (MetaItem.defectsAll ms)]
      refine hm.bind fun p hp => (ih hms).bind fun ps hps => ⟨rfl, ?_, ?_⟩
      · rw [List.map_cons, List.map_cons, hp.1, hps.1]
      · exact List.forall_mem_cons.2 ⟨hp.2, hps.2⟩

/-- **What reading a meta item answers**: the first of its defects, or the condition that is the
meta item in other words. -/
theorem reports_ofMeta (m : MetaItem) :
    Reports (ofMeta m) m.defects fun p => p.item = m.bare ∧ p.IsNamed := by
  induction m using MetaItem.induction with
  | word path =>
      rw [ofMeta, MetaItem.defects]
      refine (reports_nameOf path).map fun name hname => ⟨?_, ?_⟩
      · rw [item, hname.1, MetaItem.bare]
      · intro f hf
        rw [List.mem_singleton.1 hf]
        exact hname.2
  | nameValue path v =>
      rw [ofMeta, MetaItem.defects]
      refine (reports_nameOf path).bind fun key hkey => ?_
      obtain ⟨rfl, hname⟩ := hkey
      by_cases hv : v.kind = .text
      · rw [if_pos hv, if_pos hv]
        refine ⟨rfl, ?_, ?_⟩
        · rw [item, MetaItem.bare, Literal.bare, hv]
        · intro f hf
          rw [List.mem_singleton.1 hf]
          exact hname
      · rw [if_neg hv, if_neg hv]
        rfl
  | list path ms ih =>
      rw [ofMeta, MetaItem.defects]
      refine (reports_nameOf path).bind fun operator hop => ?_
      obtain ⟨rfl, -⟩ := hop
      refine (reports_ofMetas ms ih).bind fun ps hps => ?_
      have hlength : ms.length = ps.length := by
        simpa using (congrArg List.length hps.1).symm
      rw [hlength, MetaItem.bare, MetaItem.bareAll_eq_map, ← hps.1]
      exact reports_apply operator ps hps.2
  | literal v => rfl

/-! ### Success, failure and what is kept -/

theorem ofMeta_eq_ok_iff {m : MetaItem} {p : Predicate} :
    ofMeta m = .ok p ↔ m.defects = [] ∧ p.item = m.bare := by
  have h := reports_ofMeta m
  constructor
  · intro hp
    exact ⟨h.exists_ok_iff.1 ⟨p, hp⟩, (h.of_eq_ok hp).1⟩
  · rintro ⟨hm, hp⟩
    obtain ⟨q, hq⟩ := h.exists_ok_iff.2 hm
    obtain rfl : p = q := eq_of_item (hp.trans (h.of_eq_ok hq).1.symm)
    exact hq

/-- In writing, nothing is wrong with a condition that is about names of options only. -/
theorem IsNamed.defects_item {p : Predicate} (h : p.IsNamed) : p.item.defects = [] := by
  have hname : ∀ {n : String}, IsName n → (SimplePath.single n).nameDefects = [] := fun {n} hn =>
    SimplePath.nameDefects_eq_nil_iff.2 ⟨n, rfl, hn⟩
  induction p using Predicate.induction with
  | name n => exact hname (h (.atom n) List.mem_cons_self)
  | pair k v =>
      have hk : IsName k := h (.pair k v) List.mem_cons_self
      rw [item, MetaItem.defects, hname hk]
      rfl
  | all ps ih =>
      have hps : ∀ m ∈ itemAll ps, m.defects = [] := forall_itemAll h ih
      exact MetaItem.defects_list_eq_nil_iff.2 ⟨hname (by decide), hps, rfl⟩
  | any ps ih =>
      have hps : ∀ m ∈ itemAll ps, m.defects = [] := forall_itemAll h ih
      exact MetaItem.defects_list_eq_nil_iff.2 ⟨hname (by decide), hps, rfl⟩
  | not p ih =>
      have hp : ∀ m ∈ [p.item], m.defects = [] := List.forall_mem_singleton.2 (ih h)
      exact MetaItem.defects_list_eq_nil_iff.2 ⟨hname (by decide), hp, rfl⟩

/-- A condition that is about names of options only is read from its writing. -/
theorem IsNamed.ofMeta_item {p : Predicate} (h : p.IsNamed) : ofMeta p.item = .ok p :=
  ofMeta_eq_ok_iff.2 ⟨h.defects_item, p.bare_item.symm⟩

/-- What is read is about names of options only, and nothing else is kept from being read. -/
theorem isNamed_iff {p : Predicate} : p.IsNamed ↔ ∃ m, ofMeta m = .ok p := by
  constructor
  · intro h
    exact ⟨p.item, h.ofMeta_item⟩
  · rintro ⟨m, hm⟩
    exact ((reports_ofMeta m).of_eq_ok hm).2

/-- **Reading a meta item is determined by its defects.**  It succeeds exactly if there is none, and
then gives the condition of the same shape, with the same names, values and operands; otherwise it
fails with the first. -/
theorem ofMeta_iff_defects (m : MetaItem) :
    ((∃ p, ofMeta m = .ok p) ↔ m.defects = []) ∧
      (∀ p, ofMeta m = .ok p ↔ m.defects = [] ∧ p.item = m.bare) ∧
      ∀ e, ofMeta m = .error e ↔ m.defects.head? = some e :=
  ⟨(reports_ofMeta m).exists_ok_iff, fun _ => ofMeta_eq_ok_iff, fun _ =>
    (reports_ofMeta m).eq_error_iff⟩

example :
    (MetaItem.list (.single "not") [
      .nameValue ⟨[⟨"target"⟩, ⟨"os"⟩]⟩ ⟨.int, "3", none, .dummy⟩,
      .word (.single "9lives")]).defects =
    [.invalidName "target::os", .nonTextValue "target::os", .invalidName "9lives",
      .notArity 2] := by
  decide

/-- **Reading keeps all but spans and suffixes.**  A condition is rendered like the meta item that
it was read from, unless that has a suffix; the conditions that can be read are those about names of
options; and two meta items are read as the same condition exactly if they differ in spans and
suffixes only. -/
theorem ofMeta_faithful :
    (∀ m p, (∀ v ∈ m.literals, v.suffix = none) → ofMeta m = .ok p → p.render = m.render) ∧
      (∀ p, p.IsNamed ↔ ∃ m, ofMeta m = .ok p) ∧
      ∀ m n p, ofMeta m = .ok p → (ofMeta n = .ok p ↔ n.bare = m.bare) := by
  refine ⟨?_, fun p => isNamed_iff, ?_⟩
  · intro m p hm hp
    obtain ⟨-, hitem⟩ := ofMeta_eq_ok_iff.1 hp
    rw [← render_item, hitem, MetaItem.render_bare m hm]
  · intro m n p hp
    obtain ⟨hdefects, hitem⟩ := ofMeta_eq_ok_iff.1 hp
    constructor
    · intro hn
      exact (ofMeta_eq_ok_iff.1 hn).2.symm.trans hitem
    · intro hn
      rw [← MetaItem.defects_bare_eq_nil_iff, ← hn, MetaItem.defects_bare_eq_nil_iff] at hdefects
      exact ofMeta_eq_ok_iff.2 ⟨hdefects, hitem.trans hn.symm⟩

/-- `all(unix, not(feature = "std"), any())`, whose literal stands somewhere and may have a
suffix. -/
def nestedItem (suffix : Option String) (span : Span) : MetaItem :=
  .list (.single "all") [.word (.single "unix"),
    .list (.single "not") [.nameValue (.single "feature") ⟨.text, "std", suffix, span⟩],
    .list (.single "any") []]

/-- The same meta item with and without a suffix is read as one condition. -/
theorem ofMeta_faithful_nested :
    ofMeta (nestedItem none ⟨12, 17⟩) =
        .ok (.all [.name "unix", .not (.pair "feature" "std"), .any []]) ∧
      (Predicate.all [.name "unix", .not (.pair "feature" "std"), .any []]).render =
        (nestedItem none ⟨12, 17⟩).render ∧
      (Predicate.all [.name "unix", .not (.pair "feature" "std"), .any []]).IsNamed ∧
      ofMeta (nestedItem (some "u8") .dummy) =
        .ok (.all [.name "unix", .not (.pair "feature" "std"), .any []]) := by
  have hread : ofMeta (nestedItem none ⟨12, 17⟩) =
      .ok (.all [.name "unix", .not (.pair "feature" "std"), .any []]) := rfl
  refine ⟨hread, ?_, ?_, ?_⟩
  · exact ofMeta_faithful.1 _ _ (by decide) hread
  · exact (ofMeta_faithful.2.1 _).2 ⟨_, hread⟩
  · exact (ofMeta_faithful.2.2 _ _ _ hread).2 rfl

end Predicate

end Config

end SurfaceTree
