/-
What options hold after they were filled, and when two of them are equal.

Options are equal if they hold the same keys with the same values.  Questions, on the other hand,
are about names and pairs only, and a key without values would answer none of them.  So options that
answer all questions alike are equal only because no key without values ever comes into being: an
insertion puts a value under its key, and a flag that cannot be read inserts nothing.

It follows that options do not remember the order in which they were filled, nor how often, nor how
the flags were spelled.

Main definitions:

* `Config.Change`, `Config.Options.build` — one thing that is done to options, and one after
  another;
* `Config.Options.Filled` — every key has a value.

Main results:

* `Config.Options.filled_change`, `Config.Options.filled_build` — **no key is ever left without
  values**;
* `Config.Options.Filled.eq_of_isOn` — filled options that answer all questions alike are equal;
* `Config.Options.exists_addFlags_iff`, `Config.Options.addFlags_eq_error_iff`,
  `Config.Options.isOn_addFlags` — when a list of flags is read, why it is not, and what it switches
  on;
* `Config.Options.ofFlags_is_union` — **a list of flags is the union of its flags**.
-/

import SurfaceTree.Proofs.Spelled

set_option relaxedAutoImplicit false
set_option autoImplicit false

namespace SurfaceTree.Config

/-- One thing that is done to options. -/
inductive Change where
  /-- A name is set, whatever text it is. -/
  | atom (name : String)
  /-- A key is given a value, whatever texts they are. -/
  | pair (key value : String)
  /-- A flag is read, perhaps in vain. -/
  | flag (text : String)

namespace Options

/-- Options after one change. -/
def change (o : Options) : Change → Options
  | .atom name => o.insertAtom name
  | .pair key value => o.insertPair key value
  | .flag text => (o.readFlag text).2

/-- Options after one change and another. -/
def build (o : Options) (changes : List Change) : Options := changes.foldl change o

/-- There is no key without values. -/
def Filled (o : Options) : Prop := ∀ key : String, o.values[key]? ≠ some ∅

/-! ### No key without values -/

theorem filled_empty : empty.Filled := by
  intro key
  simp [empty]

theorem Filled.insertFlag {o : Options} (h : o.Filled) (f : Flag) : (o.insertFlag f).Filled := by
  cases f with
  | atom name => exact h
  | pair key value =>
      intro other hother
      simp only [Options.insertFlag, insertPair, Std.ExtTreeMap.getElem?_alter] at hother
      -- under the key itself stands at least the value that was put there
      by_cases hkey : compare key other = .eq
      · rw [if_pos hkey] at hother
        have hmem : value ∈ (o.values[key]?.getD ∅).insert value :=
          Std.ExtTreeSet.mem_insert_self
        rw [Option.some.inj hother] at hmem
        exact Std.ExtTreeSet.not_mem_empty hmem
      · rw [if_neg hkey] at hother
        exact h other hother

/-- **A change leaves no key without values**, also if it is a flag that cannot be read. -/
theorem filled_change {o : Options} (h : o.Filled) (c : Change) : (o.change c).Filled := by
  cases c with
  | atom name => exact h.insertFlag (.atom name)
  | pair key value => exact h.insertFlag (.pair key value)
  | flag text =>
      change (o.readFlag text).2.Filled
      rw [readFlag]
      split
      · exact h.insertFlag _
      · exact h

theorem filled_build {o : Options} (h : o.Filled) (changes : List Change) :
    (o.build changes).Filled := by
  induction changes generalizing o with
  | nil => exact h
  | cons c changes ih => exact ih (filled_change h c)

/-! ### Equal options -/

theorem exists_mem_of_ne_empty {texts : Std.ExtTreeSet String} (h : texts ≠ ∅) :
    ∃ text, text ∈ texts := by
  by_contra hnone
  refine h (Std.ExtTreeSet.ext_mem fun text => ?_)
  constructor
  · exact fun hmem => absurd ⟨text, hmem⟩ hnone
  · exact fun hmem => absurd hmem Std.ExtTreeSet.not_mem_empty

/-- Filled options have the same keys if they have the same pairs. -/
theorem Filled.getElem?_eq_none {o o' : Options} (h' : o'.Filled)
    (h : ∀ f : Flag, o.isOn f = o'.isOn f) {key : String} (ho : o.values[key]? = none) :
    o'.values[key]? = none := by
  cases hkey : o'.values[key]? with
  | none => rfl
  | some values =>
      obtain ⟨value, hvalue⟩ := exists_mem_of_ne_empty fun hempty => h' key (hempty ▸ hkey)
      have hsame := h (.pair key value)
      rw [isOn, isOn, hasPair, hasPair, ho, hkey, Option.any_none, Option.any_some,
        Std.ExtTreeSet.contains_iff_mem.2 hvalue] at hsame
      cases hsame

/-- **Filled options that answer all questions alike are equal.** -/
theorem Filled.eq_of_isOn {o o' : Options} (ho : o.Filled) (ho' : o'.Filled)
    (h : ∀ f : Flag, o.isOn f = o'.isOn f) : o = o' := by
  have hatoms : o.atoms = o'.atoms := Std.ExtTreeSet.ext_contains fun name => h (.atom name)
  have hvalues : o.values = o'.values := by
    refine Std.ExtTreeMap.ext_getElem? fun key => ?_
    -- both have the key or neither has, and under a key that both have the pairs tell the values
    cases hkey : o.values[key]? with
    | none => exact (ho'.getElem?_eq_none h hkey).symm
    | some values =>
        cases hkey' : o'.values[key]? with
        | none =>
            rw [ho.getElem?_eq_none (fun f => (h f).symm) hkey'] at hkey
            cases hkey
        | some values' =>
            refine congrArg some (Std.ExtTreeSet.ext_contains fun value => ?_)
            have hsame := h (.pair key value)
            rwa [isOn, isOn, hasPair, hasPair, hkey, hkey', Option.any_some, Option.any_some]
              at hsame
  cases o
  cases o'
  exact congr (congrArg Options.mk hatoms) hvalues

/-! ### Lists of flags -/

/-- A text is read alike, whatever was switched on before. -/
theorem readFlag_fst (o o' : Options) (text : String) :
    (o.readFlag text).1 = (o'.readFlag text).1 := by
  rw [readFlag, readFlag]
  cases Flag.read text <;> rfl

theorem addFlags_cons_of_ok {o : Options} {text : String} {f : Flag} (h : f.Spells text.toList)
    (texts : List String) : o.addFlags (text :: texts) = (o.insertFlag f).addFlags texts := by
  rw [addFlags, readFlag_of_spells o h]

theorem addFlags_cons_of_error {o : Options} {text : String} {e : ConfigError}
    (h : (o.readFlag text).1 = .error e) (texts : List String) :
    o.addFlags (text :: texts) = .error e := by
  rw [addFlags]
  cases hread : o.readFlag text with
  | mk result o' =>
      rw [hread] at h
      cases h
      rfl

/-- If a list of flags is read, the first of them is switched on before the others are read. -/
theorem exists_of_addFlags_cons {o o' : Options} {text : String} {texts : List String}
    (h : o.addFlags (text :: texts) = .ok o') :
    ∃ f : Flag, f.Spells text.toList ∧ (o.insertFlag f).addFlags texts = .ok o' := by
  rw [addFlags, readFlag] at h
  cases hread : Flag.read text with
  | error e =>
      rw [hread] at h
      cases h
  | ok f =>
      rw [hread] at h
      exact ⟨f, Flag.read_eq_ok_iff.1 hread, h⟩

/-- **A list of flags is read if each of them is.** -/
theorem exists_addFlags_iff (o : Options) (texts : List String) :
    (∃ o', o.addFlags texts = .ok o') ↔ ∀ text ∈ texts, (empty.readFlag text).1 = .ok () := by
  induction texts generalizing o with
  | nil => simp [addFlags]
  | cons text texts ih =>
      rw [List.forall_mem_cons]
      cases hread : (empty.readFlag text).1 with
      | error e =>
          rw [addFlags_cons_of_error ((readFlag_fst o empty text).trans hread)]
          simp
      | ok _ =>
          obtain ⟨f, hf⟩ := (readFlag_eq_ok_iff empty).1 hread
          rw [addFlags_cons_of_ok hf, ih]
          simp

/-- **A list of flags is refused for what is wrong with the first of them that is refused.** -/
theorem addFlags_eq_error_iff {o : Options} {texts : List String} {e : ConfigError} :
    o.addFlags texts = .error e ↔ ∃ before text after, texts = before ++ text :: after ∧
      (∀ t ∈ before, (empty.readFlag t).1 = .ok ()) ∧ (empty.readFlag text).1 = .error e := by
  induction texts generalizing o with
  | nil => simp [addFlags]
  | cons text texts ih =>
      cases hread : (empty.readFlag text).1 with
      | error e' =>
          rw [addFlags_cons_of_error ((readFlag_fst o empty text).trans hread)]
          constructor
          · intro h
            exact ⟨[], text, texts, rfl, by simp, by rw [hread, Except.error.inj h]⟩
          · rintro ⟨before, other, after, hsplit, hbefore, hother⟩
            cases before with
            | nil =>
                obtain ⟨rfl, -⟩ := List.cons.inj hsplit
                obtain rfl := Except.error.inj (hread.symm.trans hother)
                rfl
            | cons first before =>
                obtain ⟨rfl, -⟩ := List.cons.inj hsplit
                have hok := hbefore text List.mem_cons_self
                rw [hread] at hok
                cases hok
      | ok _ =>
          obtain ⟨f, hf⟩ := (readFlag_eq_ok_iff empty).1 hread
          rw [addFlags_cons_of_ok hf, ih]
          constructor
          · rintro ⟨before, other, after, rfl, hbefore, hother⟩
            exact ⟨text :: before, other, after, rfl, List.forall_mem_cons.2 ⟨hread, hbefore⟩,
              hother⟩
          · rintro ⟨before, other, after, hsplit, hbefore, hother⟩
            cases before with
            | nil =>
                obtain ⟨rfl, -⟩ := List.cons.inj hsplit
                rw [hread] at hother
                cases hother
            | cons first before =>
                obtain ⟨rfl, rfl⟩ := List.cons.inj hsplit
                exact ⟨before, other, after, rfl, (List.forall_mem_cons.1 hbefore).2, hother⟩

/-- **What a list of flags switches on**, beside what was on before. -/
theorem isOn_addFlags {o o' : Options} {texts : List String} (h : o.addFlags texts = .ok o')
    (g : Flag) : o'.isOn g = true ↔ (∃ text ∈ texts, g.Spells text.toList) ∨ o.isOn g = true := by
  induction texts generalizing o with
  | nil =>
      obtain rfl := Except.ok.inj h
      simp
  | cons text texts ih =>
      obtain ⟨f, hf, hrest⟩ := exists_of_addFlags_cons h
      have hone : g = f ↔ g.Spells text.toList := by
        constructor
        · rintro rfl
          exact hf
        · intro hg
          exact Except.ok.inj (hg.read_eq.symm.trans hf.read_eq)
      rw [ih hrest, isOn_insertFlag, hone, ← or_assoc, or_comm (b := g.Spells text.toList),
        List.exists_mem_cons_iff]

/-! ### The union of flags -/

theorem Filled.addFlags {o o' : Options} (h : o.Filled) {texts : List String}
    (hread : o.addFlags texts = .ok o') : o'.Filled := by
  induction texts generalizing o with
  | nil =>
      obtain rfl := Except.ok.inj hread
      exact h
  | cons text texts ih =>
      obtain ⟨f, -, hrest⟩ := exists_of_addFlags_cons hread
      exact ih (h.insertFlag f) hrest

/-- **A list of flags is the union of its flags.**  It is read if each of them is read alone, and
else refused for what is wrong with the first that is not.  A name is set, and a key has a value, if
one of the flags says so.  Lists that say the same make equal options, in whatever order, however
often and however spelled; and options that came about by any changes, flags that could not be read
among them, are equal as soon as they answer all questions alike. -/
theorem ofFlags_is_union :
    (∀ texts : List String,
      ((∃ o, ofFlags texts = .ok o) ↔ ∀ text ∈ texts, (empty.readFlag text).1 = .ok ()) ∧
      (∀ e, ofFlags texts = .error e ↔ ∃ before text after, texts = before ++ text :: after ∧
        (∀ t ∈ before, (empty.readFlag t).1 = .ok ()) ∧ (empty.readFlag text).1 = .error e) ∧
      ∀ o, ofFlags texts = .ok o →
        (∀ name, o.isSet name = true ↔ ∃ text ∈ texts, (Flag.atom name).Spells text.toList) ∧
        ∀ key value, o.hasPair key value = true ↔
          ∃ text ∈ texts, (Flag.pair key value).Spells text.toList) ∧
    (∀ texts texts' o o', ofFlags texts = .ok o → ofFlags texts' = .ok o' →
      (∀ f : Flag, (∃ text ∈ texts, f.Spells text.toList) ↔
        ∃ text ∈ texts', f.Spells text.toList) → o = o') ∧
    ∀ changes changes' : List Change,
      (∀ name, (empty.build changes).isSet name = (empty.build changes').isSet name) →
      (∀ key value,
        (empty.build changes).hasPair key value = (empty.build changes').hasPair key value) →
      empty.build changes = empty.build changes' := by
  have hon : ∀ {texts : List String} {o : Options}, ofFlags texts = .ok o →
      ∀ f : Flag, o.isOn f = true ↔ ∃ text ∈ texts, f.Spells text.toList := by
    intro texts o ho f
    rw [isOn_addFlags ho, isOn_empty]
    simp
  refine ⟨fun texts => ⟨exists_addFlags_iff empty texts, fun e => addFlags_eq_error_iff, ?_⟩,
    ?_, ?_⟩
  · intro o ho
    exact ⟨fun name => hon ho (.atom name), fun key value => hon ho (.pair key value)⟩
  · intro texts texts' o o' ho ho' hsame
    refine (filled_empty.addFlags ho).eq_of_isOn (filled_empty.addFlags ho') fun f => ?_
    rw [Bool.eq_iff_iff, hon ho, hon ho', hsame]
  · intro changes changes' hatoms hpairs
    refine (filled_build filled_empty changes).eq_of_isOn (filled_build filled_empty changes') ?_
    rintro (name | ⟨key, value⟩)
    · exact hatoms name
    · exact hpairs key value

/-- Order, repetition and blanks make no difference, and neither does a flag without quotes around
its value. -/
theorem ofFlags_is_union_reordered :
    (∃ o, ofFlags ["key = \"a\"", "unix", "key=\"b\""] = .ok o ∧
      ofFlags ["unix", "key=\"b\" ", "unix", "key=\"a\""] = .ok o ∧
      o.hasPair "key" "a" = true ∧ o.hasPair "key" "b" = true) ∧
    ofFlags ["unix", "key=", ""] = .error (.unquotedValue "key" "") ∧
    empty.build [.flag "key=", .pair "key" "a", .atom "unix"] =
      empty.build [.atom "unix", .flag "key=\"a\"", .flag "unix=1", .pair "key" "a"] := by
  obtain ⟨hlists, hunion, hbuilt⟩ := ofFlags_is_union
  have hone : ∀ {text : String} {g : Flag}, Flag.read text = .ok g →
      ∀ f : Flag, f.Spells text.toList ↔ f = g := by
    intro text g hread f
    rw [← Flag.read_eq_ok_iff, hread, Except.ok.injEq]
    exact eq_comm
  have hatom : ∀ f : Flag, f.Spells "unix".toList ↔ f = .atom "unix" := hone rfl
  have hpair : ∀ f : Flag, f.Spells "key = \"a\"".toList ↔ f = .pair "key" "a" := hone rfl
  have hpair' : ∀ f : Flag, f.Spells "key=\"a\"".toList ↔ f = .pair "key" "a" := hone rfl
  have hother : ∀ f : Flag, f.Spells "key=\"b\"".toList ↔ f = .pair "key" "b" := hone rfl
  have hother' : ∀ f : Flag, f.Spells "key=\"b\" ".toList ↔ f = .pair "key" "b" := hone rfl
  refine ⟨?_, ?_, ?_⟩
  · obtain ⟨o, ho⟩ := (hlists ["key = \"a\"", "unix", "key=\"b\""]).1.2 fun text htext => by
      simp only [List.mem_cons, List.not_mem_nil, or_false] at htext
      rcases htext with rfl | rfl | rfl <;> rfl
    obtain ⟨o', ho'⟩ :=
      (hlists ["unix", "key=\"b\" ", "unix", "key=\"a\""]).1.2 fun text htext => by
        simp only [List.mem_cons, List.not_mem_nil, or_false] at htext
        rcases htext with rfl | rfl | rfl | rfl <;> rfl
    have hpairs := ((hlists _).2.2 o ho).2
    obtain rfl : o = o' := hunion _ _ o o' ho ho' fun f => by
      simp only [List.exists_mem_cons_iff, List.not_mem_nil, false_and, exists_false, or_false,
        hatom, hpair, hpair', hother, hother']
      tauto
    refine ⟨o, ho, ho', (hpairs "key" "a").2 ⟨_, List.mem_cons_self, (hpair _).2 rfl⟩, ?_⟩
    exact (hpairs "key" "b").2 ⟨"key=\"b\"", by simp, (hother _).2 rfl⟩
  · refine ((hlists ["unix", "key=", ""]).2.1 _).2 ⟨["unix"], "key=", [""], rfl, ?_, rfl⟩
    exact List.forall_mem_singleton.2 rfl
  · have hleft : empty.build [.flag "key=", .pair "key" "a", .atom "unix"] =
        (empty.insertFlag (.pair "key" "a")).insertFlag (.atom "unix") := rfl
    have hright : empty.build [.atom "unix", .flag "key=\"a\"", .flag "unix=1", .pair "key" "a"] =
        ((empty.insertFlag (.atom "unix")).insertFlag (.pair "key" "a")).insertFlag
          (.pair "key" "a") := rfl
    refine hbuilt _ _ (fun name => ?_) fun key value => ?_
    · rw [hleft, hright]
      simp [isSet_insertFlag]
    · rw [hleft, hright]
      simp [hasPair_insertFlag]

end Options

end SurfaceTree.Config
