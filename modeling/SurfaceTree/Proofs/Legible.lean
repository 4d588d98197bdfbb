/-
Conditions that are written alike are alike.

A name may be the name of an operator, a list may be empty, and a value may hold brackets, commas
and equals signs.  A text can be read all the same, from left to right: a name goes on as long as
there are characters of names, the sign after it tells what it is the name of, and a value goes on
up to the next quote.  So a condition is determined by any text that starts with it, together with
what follows; and this goes through lists item by item.

Main definitions:

* `Config.Flag.IsLegible` — a name is one of an option, and a value holds no quote;
* `MetaItem.Legible` — the meta items that are made of such names and values;
* `MetaItem.trailing` — the text of the items after the first, up to the end of the list.

Main results:

* `MetaItem.Legible.isToldFrom` — **a legible item is determined by a text that starts with it**;
* `Config.Predicate.render_eq_iff` — **no two legible conditions are written alike**.
-/

import SurfaceTree.Proofs.Named
import SurfaceTree.Proofs.Written

set_option relaxedAutoImplicit false
set_option autoImplicit false

namespace SurfaceTree

open Config

/-! ### Legible items -/

/-- The name is one of an option, and the value holds no quote. -/
def Config.Flag.IsLegible : Flag → Prop
  | .atom name => IsName name
  | .pair key value => IsName key ∧ '"' ∉ value.toList

instance : DecidablePred Flag.IsLegible := fun f =>
  match f with
  | .atom name => inferInstanceAs (Decidable (IsName name))
  | .pair key value => inferInstanceAs (Decidable (IsName key ∧ '"' ∉ value.toList))

namespace MetaItem

/-- The meta items that are made of names of options and of texts without quotes. -/
inductive Legible : MetaItem → Prop
  | word {name : String} : IsName name → Legible (.word (.single name))
  | nameValue {key value : String} {span : Span} : IsName key → '"' ∉ value.toList →
      Legible (.nameValue (.single key) ⟨.text, value, none, span⟩)
  | list {operator : String} {ms : List MetaItem} : IsName operator → (∀ m ∈ ms, Legible m) →
      Legible (.list (.single operator) ms)

/-- The text of the items after the first, up to the end of the list. -/
def trailing : List MetaItem → List Char
  | [] => [')']
  | m :: ms => ',' :: ' ' :: (m.render.toList ++ trailing ms)

/-- The text of all items, up to the end of the list. -/
def operands : List MetaItem → List Char
  | [] => [')']
  | m :: ms => m.render.toList ++ trailing ms

/-- The text of an item after its name. -/
def afterName : MetaItem → List Char
  | .word _ | .literal _ => []
  | .nameValue _ v => ' ' :: '=' :: ' ' :: v.render.toList
  | .list _ ms => '(' :: operands ms

theorem intercalate_eq_operands (ms : List MetaItem) :
    [',', ' '].intercalate (ms.map fun m => m.render.toList) ++ [')'] = operands ms := by
  cases ms with
  | nil => rfl
  | cons m ms =>
      induction ms generalizing m with
      | nil => simp [operands, trailing]
      | cons n ms ih =>
          have hn := ih n
          simp only [List.map_cons, operands] at hn
          rw [List.map_cons, List.map_cons, List.intercalate_cons_cons, operands, trailing, ← hn]
          simp

theorem toList_render_text (value : String) (span : Span) :
    (Literal.mk .text value none span).render.toList = '"' :: (value.toList ++ ['"']) := by
  simp [Literal.render, Literal.body]

/-- The text of a legible item is a name and what stands after it. -/
theorem Legible.toList_render {m : MetaItem} (h : m.Legible) :
    ∃ name, m.path? = some (.single name) ∧ IsName name ∧
      m.render.toList = name.toList ++ m.afterName := by
  cases h with
  | @word name hname => exact ⟨name, rfl, hname, (List.append_nil _).symm⟩
  | @nameValue key value span hkey _ =>
      refine ⟨key, rfl, hkey, ?_⟩
      rw [render, SimplePath.render_single, String.toList_append, String.toList_append,
        List.append_assoc]
      rfl
  | @list operator ms hop _ =>
      refine ⟨operator, rfl, hop, ?_⟩
      rw [render, afterName, ← intercalate_eq_operands, renderAll_eq_map]
      simp [SimplePath.single, SimplePath.render]
      rfl

/-! ### Where an item ends -/

/-- What may stand after an item: nothing, the comma before the next, or the bracket that closes the
list. -/
def Ends (ss : List Char) : Prop := ∀ c ∈ ss.head?, c = ',' ∨ c = ')'

theorem ends_nil : Ends [] := by
  intro c hc
  cases hc

theorem ends_trailing (ms : List MetaItem) (ss : List Char) : Ends (trailing ms ++ ss) := by
  intro c hc
  cases ms with
  | nil => exact Or.inr (Option.some.inj hc).symm
  | cons m ms => exact Or.inl (Option.some.inj hc).symm

/-- The name of an item ends where the item goes on. -/
theorem not_isNamePart_afterName (m : MetaItem) {ss : List Char} (hs : Ends ss) :
    ∀ c ∈ (m.afterName ++ ss).head?, ¬ IsNamePart c := by
  have hss : ∀ c ∈ ss.head?, ¬ IsNamePart c := by
    intro c hc
    rcases hs c hc with rfl | rfl
    · decide
    · decide
  cases m with
  | word p => exact hss
  | literal v => exact hss
  | nameValue p v =>
      intro c hc
      obtain rfl : ' ' = c := Option.some.inj hc
      decide
  | list p ms =>
      intro c hc
      obtain rfl : '(' = c := Option.some.inj hc
      decide

/-- Of two legible items at the start of one text the names are the same, and what stands after
them. -/
theorem Legible.afterName_eq {m n : MetaItem} (hm : m.Legible) (hn : n.Legible) {ss ts : List Char}
    (hs : Ends ss) (ht : Ends ts) (h : m.render.toList ++ ss = n.render.toList ++ ts) :
    m.path? = n.path? ∧ m.afterName ++ ss = n.afterName ++ ts := by
  obtain ⟨a, ham, ha, hma⟩ := hm.toList_render
  obtain ⟨b, hbn, hb, hnb⟩ := hn.toList_render
  rw [hma, hnb, List.append_assoc, List.append_assoc] at h
  obtain ⟨hab, htails⟩ := append_inj_of_boundary ha.isNamePart hb.isNamePart
    (not_isNamePart_afterName m hs) (not_isNamePart_afterName n ht) h
  rw [ham, hbn, String.toList_inj.1 hab]
  exact ⟨rfl, htails⟩

/-- A meta item can be told from a text that starts with it. -/
def IsToldFrom (m : MetaItem) : Prop :=
  ∀ ⦃n : MetaItem⦄ ⦃ss ts : List Char⦄, n.Legible → Ends ss → Ends ts →
    m.render.toList ++ ss = n.render.toList ++ ts → m.bare = n.bare ∧ ss = ts

theorem trailing_inj {ms ns : List MetaItem} (hms : ∀ m ∈ ms, m.IsToldFrom)
    (hns : ∀ n ∈ ns, n.Legible) {ss ts : List Char} (h : trailing ms ++ ss = trailing ns ++ ts) :
    ms.map bare = ns.map bare ∧ ss = ts := by
  induction ms generalizing ns with
  | nil =>
      cases ns with
      | nil => exact ⟨rfl, (List.cons.inj h).2⟩
      | cons n ns => simp [trailing] at h
  | cons m ms ih =>
      cases ns with
      | nil => simp [trailing] at h
      | cons n ns =>
          obtain ⟨hm, hms⟩ := List.forall_mem_cons.1 hms
          obtain ⟨hn, hns⟩ := List.forall_mem_cons.1 hns
          simp only [trailing, List.cons_append, List.append_assoc, List.cons.injEq, true_and] at h
          obtain ⟨hmn, hrest⟩ := hm hn (ends_trailing ms ss) (ends_trailing ns ts) h
          obtain ⟨hall, hss⟩ := ih hms hns hrest
          exact ⟨by rw [List.map_cons, List.map_cons, hmn, hall], hss⟩

/-- A legible item does not start with the bracket that closes a list. -/
theorem Legible.not_closed {m : MetaItem} (h : m.Legible) {ss ts : List Char} :
    m.render.toList ++ ss ≠ ')' :: ts := by
  obtain ⟨name, -, hname, hrender⟩ := h.toList_render
  obtain ⟨c, cs, htext, hc, -⟩ := hname
  rw [hrender, htext]
  intro heq
  obtain rfl : c = ')' := (List.cons.inj heq).1
  revert hc
  decide

/-- The items of a list are determined: the first starts at once, and the others after a comma. -/
theorem operands_inj {ms ns : List MetaItem} (hms : ∀ m ∈ ms, m.Legible)
    (htold : ∀ m ∈ ms, m.IsToldFrom) (hns : ∀ n ∈ ns, n.Legible) {ss ts : List Char}
    (h : operands ms ++ ss = operands ns ++ ts) : ms.map bare = ns.map bare ∧ ss = ts := by
  cases ms with
  | nil =>
      cases ns with
      | nil => exact ⟨rfl, (List.cons.inj h).2⟩
      | cons n ns =>
          rw [operands, operands, List.append_assoc] at h
          exact absurd h.symm (hns n List.mem_cons_self).not_closed
  | cons m ms =>
      cases ns with
      | nil =>
          rw [operands, operands, List.append_assoc] at h
          exact absurd h (hms m List.mem_cons_self).not_closed
      | cons n ns =>
          have hcomma : trailing (m :: ms) ++ ss = trailing (n :: ns) ++ ts :=
            congrArg (fun cs => ',' :: ' ' :: cs) h
          exact trailing_inj htold hns hcomma

/-- **A legible item is determined by a text that starts with it**, up to spans, and so is what
follows.  The sign after the name tells the forms apart. -/
theorem Legible.isToldFrom {m : MetaItem} (h : m.Legible) : m.IsToldFrom := by
  induction h with
  | @word name hname =>
      intro n ss ts hn hs ht heq
      obtain ⟨hpath, htail⟩ := (Legible.word hname).afterName_eq hn hs ht heq
      cases hn with
      | word _ => exact ⟨congrArg MetaItem.word (Option.some.inj hpath), htail⟩
      | nameValue _ _ =>
          obtain rfl : ss = _ := htail
          exact absurd (hs ' ' rfl) (by decide)
      | list _ _ =>
          obtain rfl : ss = _ := htail
          exact absurd (hs '(' rfl) (by decide)
  | @nameValue key value span hkey hvalue =>
      intro n ss ts hn hs ht heq
      obtain ⟨hpath, htail⟩ := (Legible.nameValue hkey hvalue).afterName_eq hn hs ht heq
      cases hn with
      | word _ =>
          obtain rfl : _ = ts := htail
          exact absurd (ht ' ' rfl) (by decide)
      | @nameValue key' value' span' _ hvalue' =>
          simp only [afterName, toList_render_text, List.cons_append, List.append_assoc,
            List.cons.injEq, true_and] at htail
          have hne : ∀ {cs : List Char}, '"' ∉ cs → ∀ c ∈ cs, c ≠ '"' :=
            fun h c hc hq => h (hq ▸ hc)
          -- a value goes on up to the next quote
          obtain ⟨hv, hrest⟩ :=
            append_inj_of_boundary (hne hvalue) (hne hvalue') (by simp) (by simp) htail
          rw [String.toList_inj.1 hv]
          exact ⟨congrArg (MetaItem.nameValue · _) (Option.some.inj hpath), (List.cons.inj hrest).2⟩
      | list _ _ => simp [afterName] at htail
  | @list operator ms hop hms ih =>
      intro n ss ts hn hs ht heq
      obtain ⟨hpath, htail⟩ := (Legible.list hop hms).afterName_eq hn hs ht heq
      cases hn with
      | word _ =>
          obtain rfl : _ = ts := htail
          exact absurd (ht '(' rfl) (by decide)
      | nameValue _ _ => simp [afterName] at htail
      | @list operator' ns _ hns =>
          have hoperands : operands ms ++ ss = operands ns ++ ts := (List.cons.inj htail).2
          obtain ⟨hitems, hrest⟩ := operands_inj hms ih hns hoperands
          refine ⟨?_, hrest⟩
          rw [bare, bare, bareAll_eq_map, bareAll_eq_map, hitems, Option.some.inj hpath]

end MetaItem

/-! ### Conditions -/

namespace Config.Predicate

/-- In writing, a condition about legible flags is a legible item. -/
theorem legible_item {p : Predicate} (h : ∀ f ∈ p.flags, f.IsLegible) : p.item.Legible := by
  induction p using Predicate.induction with
  | name n => exact .word (h (.atom n) List.mem_cons_self)
  | pair k v =>
      obtain ⟨hk, hv⟩ : IsName k ∧ '"' ∉ v.toList := h (.pair k v) List.mem_cons_self
      exact .nameValue hk hv
  | all ps ih => exact .list (by decide) (forall_itemAll h ih)
  | any ps ih => exact .list (by decide) (forall_itemAll h ih)
  | not p ih => exact .list (by decide) (List.forall_mem_singleton.2 (ih h))

/-- **No two legible conditions are written alike.** -/
theorem render_eq_iff {p q : Predicate} (hp : ∀ f ∈ p.flags, f.IsLegible)
    (hq : ∀ f ∈ q.flags, f.IsLegible) : p.render = q.render ↔ p = q := by
  constructor
  · intro h
    have htexts : p.item.render.toList ++ [] = q.item.render.toList ++ [] := by
      rw [render_item, render_item, h]
    obtain ⟨hbare, -⟩ :=
      (legible_item hp).isToldFrom (legible_item hq) MetaItem.ends_nil MetaItem.ends_nil htexts
    rw [bare_item, bare_item] at hbare
    exact eq_of_item hbare
  · rintro rfl
    rfl

/-- Names of operators, empty lists and signs in values do not make a text ambiguous. -/
theorem render_ne_of_nested :
    (∀ f ∈ (Predicate.all [.name "all", .any [], .pair "a" "b), c = (d, e"]).flags, f.IsLegible) ∧
      (∀ f ∈ (Predicate.all [.name "all", .any [.pair "a" "b), c = (d, e"]]).flags, f.IsLegible) ∧
      (Predicate.all [.name "all", .any [], .pair "a" "b), c = (d, e"]).render ≠
        (Predicate.all [.name "all", .any [.pair "a" "b), c = (d, e"]]).render := by
  have hp : ∀ f ∈ (Predicate.all [.name "all", .any [], .pair "a" "b), c = (d, e"]).flags,
      f.IsLegible := by decide
  have hq : ∀ f ∈ (Predicate.all [.name "all", .any [.pair "a" "b), c = (d, e"]]).flags,
      f.IsLegible := by decide
  refine ⟨hp, hq, fun h => ?_⟩
  have heq := (render_eq_iff hp hq).1 h
  simp at heq

-- a quote in a value can end it early
example : (Predicate.any [.pair "a" "x\", b = \"y"]).render =
    (Predicate.any [.pair "a" "x", .pair "b" "y"]).render := by decide

end Config.Predicate

end SurfaceTree
