/-
Flags and single conditions.

A flag is read from a text in which blanks may stand at both ends and around the equals sign.  The
text of a condition on a single option is such a text, with one blank on either side of the sign; so
it can be handed over as a flag, and switches on what the condition asks for.  Every flag is of this
kind, however it is spelled.

Main definitions:

* `Config.Flag.Spells` — **the texts that spell a flag**;
* `Config.Flag.predicate` — the condition that asks for a flag;
* `Config.Predicate.IsAtomic` — a condition on a single option;
* `Config.SwitchesOn` — reading a text as a flag makes one condition true, and no other.

Main results:

* `Config.Flag.read_eq_ok_iff` — **reading accepts the texts that spell a flag**;
* `Config.Flag.spells_render` — the text of a condition on a single option spells a flag;
* `Config.switchesOn_iff` — what a text switches on;
* `Config.flags_are_atomic_conditions` — **flags and conditions on single options are the same**.
-/

import SurfaceTree.Proofs.Defects

set_option relaxedAutoImplicit false
set_option autoImplicit false

namespace SurfaceTree.Config

open Text

/-! ### How flags are spelled -/

namespace Flag

/-- A value as it stands in a flag. -/
def inQuotes (value : String) : List Char := '"' :: (value.toList ++ ['"'])

/-- **The texts that spell a flag.**  Blanks may stand at both ends and around the equals sign, and
between the quotes any text may stand. -/
inductive Spells : Flag → List Char → Prop
  | atom {name : String} {ws ws' : List Char} : IsName name → AllBlank ws → AllBlank ws' →
      Spells (.atom name) (ws ++ (name.toList ++ ws'))
  | pair {key value : String} {ws us us' ws' : List Char} : IsName key → AllBlank ws →
      AllBlank us → AllBlank us' → AllBlank ws' →
      Spells (.pair key value)
        (ws ++ (key.toList ++ us ++ '=' :: (us' ++ inQuotes value) ++ ws'))

theorem not_mem_equals_of_isName {name : String} (h : IsName name) : '=' ∉ name.toList := by
  intro hmem
  exact absurd (h.isNamePart '=' hmem) (by decide)

theorem not_mem_equals_of_allBlank {ws : List Char} (h : AllBlank ws) : '=' ∉ ws := by
  intro hmem
  exact absurd (h '=' hmem) (by decide)

/-- A name has no blank at its ends, for it has none at all. -/
theorem isTrimmed_of_isName {name : String} (h : IsName name) : IsTrimmed name.toList := by
  constructor
  · intro c hc
    exact (h.isNamePart c (List.mem_of_mem_head? hc)).isBlank_eq_false
  · intro c hc
    exact (h.isNamePart c (List.mem_of_getLast? hc)).isBlank_eq_false

theorem isTrimmed_inQuotes (value : String) : IsTrimmed (inQuotes value) := by
  have hquote : IsTrimmed ['"'] := by simp [IsTrimmed]; decide
  exact hquote.append hquote (List.cons_ne_nil _ _) (List.cons_ne_nil _ _) value.toList

/-- The part of a text between its blanks that has no equals sign is read as a name. -/
theorem read_of_no_equals {text : String} {cs : List Char} (hcs : trimChars text.toList = cs)
    (hne : cs ≠ []) (h : '=' ∉ cs) :
    read text =
      if isName cs then .ok (.atom (String.ofList cs))
      else .error (.invalidName (String.ofList cs)) := by
  have hsplit : splitEquals? cs = none := splitEquals?_eq_none_iff.2 h
  rw [read, hcs]
  cases cs with
  | nil => exact absurd rfl hne
  | cons c cs => simp only [hsplit]

/-- The part of a text between its blanks is cut at its first equals sign. -/
theorem read_of_equals {text : String} {cs before after : List Char}
    (hcs : trimChars text.toList = cs) (h : splitEquals? cs = some (before, after)) :
    read text =
      if isName (trimChars before) then
        (unquote? (trimChars after)).elim
          (.error (.unquotedValue (String.ofList (trimChars before))
            (String.ofList (trimChars after))))
          fun value => .ok (.pair (String.ofList (trimChars before)) (String.ofList value))
      else .error (.invalidName (String.ofList (trimChars before))) := by
  rw [read, hcs]
  cases cs with
  | nil => cases h
  | cons c cs =>
      simp only [h]
      cases unquote? (trimChars after) <;> rfl

theorem Spells.read_eq {f : Flag} {text : String} (h : f.Spells text.toList) :
    read text = .ok f := by
  generalize htext : text.toList = cs at h
  cases h with
  | @atom name ws ws' hname hws hws' =>
      have htrim : trimChars text.toList = name.toList := by
        rw [htext]
        exact (isTrimmed_of_isName hname).trimChars_append hws hws'
      rw [read_of_no_equals htrim hname.toList_ne_nil (not_mem_equals_of_isName hname),
        if_pos (isName_iff.2 hname), String.ofList_toList]
  | @pair key value ws us us' ws' hkey hws hus hus' hws' =>
      have hnil : AllBlank [] := by simp [AllBlank]
      have hk : IsTrimmed key.toList := isTrimmed_of_isName hkey
      have hv : IsTrimmed (inQuotes value) := isTrimmed_inQuotes value
      have htrim : trimChars text.toList = key.toList ++ us ++ '=' :: (us' ++ inQuotes value) := by
        have hmiddle := hk.append hv hkey.toList_ne_nil (List.cons_ne_nil _ _) (us ++ '=' :: us')
        rw [htext]
        refine IsTrimmed.trimChars_append ?_ hws hws'
        simpa using hmiddle
      have hsplit : splitEquals? (key.toList ++ us ++ '=' :: (us' ++ inQuotes value)) =
          some (key.toList ++ us, us' ++ inQuotes value) := by
        refine splitEquals?_eq_some_iff.2 ⟨rfl, fun hmem => ?_⟩
        rcases List.mem_append.1 hmem with hmem | hmem
        · exact not_mem_equals_of_isName hkey hmem
        · exact not_mem_equals_of_allBlank hus hmem
      have hbefore : trimChars (key.toList ++ us) = key.toList := hk.trimChars_append hnil hus
      have hafter : trimChars (us' ++ inQuotes value) = inQuotes value := by
        simpa using hv.trimChars_append hus' hnil
      have hvalue : unquote? (inQuotes value) = some value.toList := unquote?_eq_some_iff.2 rfl
      rw [read_of_equals htrim hsplit, hbefore, hafter, if_pos (isName_iff.2 hkey), hvalue,
        Option.elim_some, String.ofList_toList, String.ofList_toList]

theorem spells_of_read {f : Flag} {text : String} (h : read text = .ok f) :
    f.Spells text.toList := by
  obtain ⟨cs, hcs⟩ : ∃ cs, trimChars text.toList = cs := ⟨_, rfl⟩
  obtain ⟨-, ws, ws', hws, hws', htext⟩ := trimChars_eq_iff.1 hcs
  rw [htext]
  by_cases hne : cs = []
  · rw [read, hcs, hne] at h
    cases h
  by_cases heq : '=' ∈ cs
  · obtain ⟨before, after, hsplit, hn⟩ := List.eq_append_cons_of_mem heq
    rw [read_of_equals hcs (splitEquals?_eq_some_iff.2 ⟨hsplit, hn⟩)] at h
    obtain ⟨key, hkey⟩ : ∃ key, trimChars before = key := ⟨_, rfl⟩
    obtain ⟨found, hfound⟩ : ∃ found, trimChars after = found := ⟨_, rfl⟩
    obtain ⟨-, vs, us, hvs, hus, hbefore⟩ := trimChars_eq_iff.1 hkey
    obtain ⟨-, us', vs', hus', hvs', hafter⟩ := trimChars_eq_iff.1 hfound
    rw [hkey, hfound] at h
    by_cases hname : isName key = true
    · cases hvalue : unquote? found with
      | none =>
          rw [if_pos hname, hvalue] at h
          cases h
      | some value =>
          rw [if_pos hname, hvalue] at h
          obtain rfl := Except.ok.inj h
          have hisName : IsName (String.ofList key) := by
            rwa [← isName_iff, String.toList_ofList]
          -- blanks at the ends of the halves go to the ends of the text and to the sign
          have hspells : Spells (.pair (String.ofList key) (String.ofList value)) _ :=
            .pair hisName (hws.append hvs) hus hus' (hvs'.append hws')
          rw [hsplit, hbefore, hafter, unquote?_eq_some_iff.1 hvalue]
          simpa [inQuotes] using hspells
    · rw [if_neg hname] at h
      cases h
  · rw [read_of_no_equals hcs hne heq] at h
    by_cases hname : isName cs = true
    · rw [if_pos hname] at h
      obtain rfl := Except.ok.inj h
      have hisName : IsName (String.ofList cs) := by
        rwa [← isName_iff, String.toList_ofList]
      simpa using Spells.atom hisName hws hws'
    · rw [if_neg hname] at h
      cases h

/-- **Reading accepts the texts that spell a flag**, and gives the flag that they spell. -/
theorem read_eq_ok_iff {f : Flag} {text : String} : read text = .ok f ↔ f.Spells text.toList :=
  ⟨spells_of_read, Spells.read_eq⟩

/-- What a text spells is about a name of an option. -/
theorem Spells.isName {f : Flag} {cs : List Char} (h : f.Spells cs) : IsName f.name := by
  cases h with
  | atom hname _ _ => exact hname
  | pair hkey _ _ _ _ => exact hkey

/-! ### Conditions on single options -/

/-- The condition that asks for a flag. -/
def predicate : Flag → Predicate
  | .atom name => .name name
  | .pair key value => .pair key value

theorem holds_predicate (o : Options) (f : Flag) : f.predicate.holds o = o.isOn f := by
  cases f <;> rfl

theorem predicate_injective {f g : Flag} (h : f.predicate = g.predicate) : f = g := by
  cases f <;> cases g <;> simp_all [predicate]

theorem isNamed_predicate_iff {f : Flag} : f.predicate.IsNamed ↔ IsName f.name := by
  have hflags : f.predicate.flags = [f] := by cases f <;> rfl
  rw [Predicate.IsNamed, hflags, List.forall_mem_singleton]

/-- **The text of a condition on a single option spells a flag**: there are no blanks at its ends,
and one on either side of the equals sign. -/
theorem spells_render {f : Flag} (h : IsName f.name) : f.Spells f.predicate.render.toList := by
  have hnil : AllBlank [] := by simp [AllBlank]
  have hblank : AllBlank [' '] := by simp [AllBlank]; decide
  cases f with
  | atom name =>
      have hname : IsName name := h
      simpa [predicate, Predicate.render] using Spells.atom hname hnil hnil
  | pair key value =>
      have hkey : IsName key := h
      have hspells : Spells (.pair key value) _ := .pair hkey hnil hblank hblank hnil
      simpa [predicate, Predicate.render, inQuotes] using hspells

end Flag

/-- A condition on a single option. -/
def Predicate.IsAtomic : Predicate → Prop
  | .name _ | .pair _ _ => True
  | .all _ | .any _ | .not _ => False

theorem Predicate.isAtomic_iff {p : Predicate} : p.IsAtomic ↔ ∃ f : Flag, p = f.predicate := by
  constructor
  · intro h
    cases p with
    | name n => exact ⟨.atom n, rfl⟩
    | pair k v => exact ⟨.pair k v, rfl⟩
    | all ps => cases h
    | any ps => cases h
    | not p => cases h
  · rintro ⟨f, rfl⟩
    cases f with
    | atom name => trivial
    | pair key value => trivial

/-! ### What flags switch on -/

theorem Options.isOn_empty (g : Flag) : empty.isOn g = false := by
  cases g with
  | atom name => exact isSet_empty name
  | pair key value => exact hasPair_empty key value

theorem Options.isOn_insertFlag (o : Options) (f g : Flag) :
    (o.insertFlag f).isOn g = true ↔ g = f ∨ o.isOn g = true := by
  cases g with
  | atom name =>
      rw [isOn, isOn, isSet_insertFlag, Bool.or_eq_true, decide_eq_true_eq]
      exact or_congr_left eq_comm
  | pair key value =>
      rw [isOn, isOn, hasPair_insertFlag, Bool.or_eq_true, decide_eq_true_eq]
      exact or_congr_left eq_comm

theorem Options.readFlag_of_spells (o : Options) {f : Flag} {text : String}
    (h : f.Spells text.toList) : o.readFlag text = (.ok (), o.insertFlag f) := by
  rw [readFlag, h.read_eq]

/-- **Reading a text as a flag makes one condition on a single option true, and no other**, whatever
was switched on before. -/
def SwitchesOn (text : String) (p : Predicate) : Prop :=
  ∀ o : Options, ∃ o', o.readFlag text = (.ok (), o') ∧
    ∀ q : Predicate, q.IsAtomic → (q.holds o' = true ↔ q = p ∨ q.holds o = true)

/-- A text that spells a flag switches on what asks for the flag, and nothing else. -/
theorem switchesOn_iff {f : Flag} {text : String} (h : f.Spells text.toList) {p : Predicate}
    (hp : p.IsAtomic) : SwitchesOn text p ↔ p = f.predicate := by
  constructor
  · intro hon
    -- among nothing at all only the condition itself can have become true
    obtain ⟨o', hread, hholds⟩ := hon .empty
    rw [Options.readFlag_of_spells .empty h] at hread
    obtain rfl := (Prod.mk.inj hread).2
    obtain ⟨g, rfl⟩ := Predicate.isAtomic_iff.1 hp
    have hg := (hholds _ hp).2 (Or.inl rfl)
    rw [Flag.holds_predicate, Options.isOn_insertFlag] at hg
    rcases hg with rfl | hempty
    · rfl
    · simp [Options.isOn_empty] at hempty
  · rintro rfl o
    refine ⟨_, Options.readFlag_of_spells o h, fun q hq => ?_⟩
    obtain ⟨g, rfl⟩ := Predicate.isAtomic_iff.1 hq
    rw [Flag.holds_predicate, Flag.holds_predicate, Options.isOn_insertFlag]
    exact or_congr_left ⟨congrArg Flag.predicate, Flag.predicate_injective⟩

/-- **Flags and conditions on single options are the same.**  The text of such a condition, if it
can be read off a meta item, is read as a flag and switches on that condition; and a text that is
read as a flag does the same as the text of one such condition, and switches on no other. -/
theorem flags_are_atomic_conditions :
    (∀ p : Predicate, p.IsAtomic → (∃ m, Predicate.ofMeta m = .ok p) → SwitchesOn p.render p) ∧
      ∀ text, (∃ o o', Options.readFlag o text = (.ok (), o')) →
        ∃ p : Predicate, p.IsAtomic ∧ (∃ m, Predicate.ofMeta m = .ok p) ∧
          (∀ o : Options, o.readFlag text = o.readFlag p.render) ∧
          ∀ q : Predicate, q.IsAtomic → (SwitchesOn text q ↔ q = p) := by
  constructor
  · intro p hp hread
    obtain ⟨f, rfl⟩ := Predicate.isAtomic_iff.1 hp
    have hname : IsName f.name := Flag.isNamed_predicate_iff.1 (Predicate.isNamed_iff.2 hread)
    exact (switchesOn_iff (Flag.spells_render hname) hp).2 rfl
  · rintro text ⟨o, o', hread⟩
    cases hf : Flag.read text with
    | error e =>
        rw [Options.readFlag, hf] at hread
        cases (Prod.mk.inj hread).1
    | ok f =>
        have hspells : f.Spells text.toList := Flag.read_eq_ok_iff.1 hf
        have hatomic : f.predicate.IsAtomic := Predicate.isAtomic_iff.2 ⟨f, rfl⟩
        refine ⟨f.predicate, hatomic, ?_, fun o => ?_, fun q hq => switchesOn_iff hspells hq⟩
        · exact Predicate.isNamed_iff.1 (Flag.isNamed_predicate_iff.2 hspells.isName)
        · rw [Options.readFlag_of_spells o hspells,
            Options.readFlag_of_spells o (Flag.spells_render hspells.isName)]

/-- A value with quotes, an equals sign and blanks at its ends is handed over as it is, and blanks
around the sign make no difference. -/
theorem flags_are_atomic_conditions_spaced :
    (∃ m, Predicate.ofMeta m = .ok (.pair "key" " = \"v\" ")) ∧
      SwitchesOn "key = \" = \"v\" \"" (.pair "key" " = \"v\" ") ∧
      Options.readFlag .empty "\tkey=\"\" \n" = (.ok (), ⟨∅, {("key", {""})}⟩) ∧
      ∃ p : Predicate, p.IsAtomic ∧ (∃ m, Predicate.ofMeta m = .ok p) ∧
        (∀ o : Options, o.readFlag "\tkey=\"\" \n" = o.readFlag p.render) ∧
        ∀ q : Predicate, q.IsAtomic → (SwitchesOn "\tkey=\"\" \n" q ↔ q = p) := by
  have hmeta : ∃ m, Predicate.ofMeta m = .ok (.pair "key" " = \"v\" ") :=
    ⟨Predicate.item (.pair "key" " = \"v\" "), rfl⟩
  have hread : Options.readFlag .empty "\tkey=\"\" \n" = (.ok (), ⟨∅, {("key", {""})}⟩) := by rfl
  refine ⟨hmeta, ?_, hread, ?_⟩
  · exact flags_are_atomic_conditions.1 (.pair "key" " = \"v\" ") trivial hmeta
  · exact flags_are_atomic_conditions.2 "\tkey=\"\" \n" ⟨.empty, _, hread⟩

end SurfaceTree.Config
