/-
The one way to cut up a text that spells a flag, and what becomes of all other texts.

A text that spells a flag is cut at its first equals sign, if it has one.  Before the sign, and in a
text without one, stands a name between two runs of blanks; neither can take anything from the
other, since no name holds a blank.  After the sign stands a value in quotes between two runs of
blanks.  The value may hold anything, quotes and blanks among it, and yet it begins behind the first
character that is no blank and ends before the last.

A text that spells no flag is refused for the first of three reasons: there is nothing to read, or
no name where one has to be, or no quotes around the value.  It leaves the options as they are.

Main definitions:

* `Config.Spelling` — the pieces of a text, with `Config.Spelling.text` and `Config.Spelling.flag`
  for what they make up and what they say;
* `Config.Spelling.IsProper` — blanks are blanks, and names are names;
* `Config.Flag.nameText`, `Config.Flag.valueText` — what stands for the name and for the value;
* `Config.Flag.refusal` — **why a text spells no flag**.

Main results:

* `Config.Spelling.eq_of_text_eq` — **there is one way to cut up a text**;
* `Config.Flag.spells_iff` — a text spells what its pieces say;
* `Config.Flag.read_of_not_spells` — **the reason for which a text is refused**;
* `Config.Options.readFlag_iff_spelling` — reading flags accepts the proper spellings, adds what
  they say, and leaves the options alone otherwise.
-/

import SurfaceTree.Proofs.Flagged

set_option relaxedAutoImplicit false
set_option autoImplicit false

namespace SurfaceTree

/-! ### Trimming next to blanks -/

namespace Text

variable {ws cs : List Char}

/-- Blanks in front make no difference to what is left after trimming. -/
theorem trimChars_append_left (hws : AllBlank ws) (cs : List Char) :
    trimChars (ws ++ cs) = trimChars cs := by
  obtain ⟨htrimmed, us, us', hus, hus', hcs⟩ := trimChars_eq_iff.1 (rfl : trimChars cs = _)
  have hall : ws ++ cs = (ws ++ us) ++ (trimChars cs ++ us') := by
    rw [List.append_assoc, ← hcs]
  rw [hall]
  exact htrimmed.trimChars_append (hws.append hus) hus'

/-- Blanks behind make no difference to what is left after trimming. -/
theorem trimChars_append_right (cs : List Char) (hws : AllBlank ws) :
    trimChars (cs ++ ws) = trimChars cs := by
  obtain ⟨htrimmed, us, us', hus, hus', hcs⟩ := trimChars_eq_iff.1 (rfl : trimChars cs = _)
  have hall : cs ++ ws = us ++ (trimChars cs ++ (us' ++ ws)) := by
    rw [← List.append_assoc (trimChars cs), ← List.append_assoc us, ← hcs]
  rw [hall]
  exact htrimmed.trimChars_append hus (hus'.append hws)

instance : DecidablePred AllBlank := fun ws =>
  decidable_of_iff (ws.all isBlank = true) List.all_eq_true

end Text

namespace Config

open Text

/-- **A longest run starts in one place only**, if it stands at the end. -/
theorem append_inj_of_boundary_right {P : Char → Prop} {as bs ss ts : List Char}
    (hs : ∀ c ∈ ss, P c) (ht : ∀ c ∈ ts, P c) (ha : ∀ c ∈ as.getLast?, ¬P c)
    (hb : ∀ c ∈ bs.getLast?, ¬P c) (h : as ++ ss = bs ++ ts) : as = bs ∧ ss = ts := by
  have hreverse : ss.reverse ++ as.reverse = ts.reverse ++ bs.reverse := by
    rw [← List.reverse_append, ← List.reverse_append, h]
  obtain ⟨hss, has⟩ := append_inj_of_boundary (P := P)
    (fun c hc => hs c (List.mem_reverse.1 hc)) (fun c hc => ht c (List.mem_reverse.1 hc))
    (fun c hc => ha c (List.head?_reverse ▸ hc)) (fun c hc => hb c (List.head?_reverse ▸ hc))
    hreverse
  exact ⟨List.reverse_injective has, List.reverse_injective hss⟩

/-! ### Pieces -/

/-- The pieces of a text that spells a flag, in the order in which they stand. -/
inductive Spelling where
  | atom (before : List Char) (name : String) (after : List Char)
  | pair (before : List Char) (key : String) (afterKey beforeValue : List Char) (value : String)
      (after : List Char)

namespace Spelling

/-- The text that the pieces make up. -/
def text : Spelling → List Char
  | .atom before name after => before ++ (name.toList ++ after)
  | .pair before key afterKey beforeValue value after =>
      before ++ (key.toList ++ afterKey ++ '=' :: (beforeValue ++ Flag.inQuotes value) ++ after)

/-- What stands for blanks is blank, and what stands for a name is one. -/
def IsProper : Spelling → Prop
  | .atom before name after => AllBlank before ∧ IsName name ∧ AllBlank after
  | .pair before key afterKey beforeValue _ after =>
      AllBlank before ∧ IsName key ∧ AllBlank afterKey ∧ AllBlank beforeValue ∧ AllBlank after

/-- The flag that the pieces say. -/
def flag : Spelling → Flag
  | .atom _ name _ => .atom name
  | .pair _ key _ _ value _ => .pair key value

/-! ### One way to cut up a text -/

/-- A name between two runs of blanks is told from them. -/
theorem named_inj {ws ws' vs vs' : List Char} {name name' : String} (hws : AllBlank ws)
    (hname : IsName name) (hws' : AllBlank ws') (hvs : AllBlank vs) (hname' : IsName name')
    (hvs' : AllBlank vs') (h : ws ++ (name.toList ++ ws') = vs ++ (name'.toList ++ vs')) :
    ws = vs ∧ name = name' ∧ ws' = vs' := by
  have hfront : ∀ {name : String} (ws : List Char), IsName name →
      ∀ c ∈ (name.toList ++ ws).head?, ¬isBlank c = true := by
    intro name ws hname c hc
    rw [List.head?_append_of_ne_nil _ hname.toList_ne_nil] at hc
    rw [(Flag.isTrimmed_of_isName hname).1 c hc]
    exact Bool.false_ne_true
  have hback : ∀ {ws : List Char}, AllBlank ws → ∀ c ∈ ws.head?, ¬IsNamePart c := by
    intro ws hws c hc hpart
    have hblank : isBlank c = true := hws c (List.mem_of_mem_head? hc)
    rw [hpart.isBlank_eq_false] at hblank
    exact Bool.false_ne_true hblank
  obtain ⟨hbefore, hrest⟩ :=
    append_inj_of_boundary hws hvs (hfront ws' hname) (hfront vs' hname') h
  obtain ⟨hnames, hafter⟩ :=
    append_inj_of_boundary hname.isNamePart hname'.isNamePart (hback hws') (hback hvs') hrest
  exact ⟨hbefore, String.toList_injective hnames, hafter⟩

/-- A value in quotes between two runs of blanks is told from them, whatever it is. -/
theorem quoted_inj {ws ws' vs vs' : List Char} {value value' : String} (hws : AllBlank ws)
    (hws' : AllBlank ws') (hvs : AllBlank vs) (hvs' : AllBlank vs')
    (h : ws ++ Flag.inQuotes value ++ ws' = vs ++ Flag.inQuotes value' ++ vs') :
    ws = vs ∧ value = value' ∧ ws' = vs' := by
  have hblank : ¬isBlank '"' = true := by decide
  have hends : ∀ (ws : List Char) (value : String),
      ∀ c ∈ (ws ++ Flag.inQuotes value).getLast?, ¬isBlank c = true := by
    intro ws value c hc
    rw [Flag.inQuotes, ← List.cons_append, ← List.append_assoc, List.getLast?_concat] at hc
    obtain rfl := Option.some.inj hc
    exact hblank
  have hstarts : ∀ (value : String), ∀ c ∈ (Flag.inQuotes value).head?, ¬isBlank c = true := by
    intro value c hc
    obtain rfl := Option.some.inj hc
    exact hblank
  -- from the right first: inside of the value there may be quotes and blanks as well
  obtain ⟨hrest, hafter⟩ :=
    append_inj_of_boundary_right hws' hvs' (hends ws value) (hends vs value') h
  obtain ⟨hbefore, hquotes⟩ :=
    append_inj_of_boundary hws hvs (hstarts value) (hstarts value') hrest
  have hvalues : value.toList = value'.toList :=
    List.append_cancel_right (List.cons.inj hquotes).2
  exact ⟨hbefore, String.toList_injective hvalues, hafter⟩

theorem text_pair (before : List Char) (key : String) (afterKey beforeValue : List Char)
    (value : String) (after : List Char) :
    (pair before key afterKey beforeValue value after).text =
      before ++ (key.toList ++ afterKey) ++
        '=' :: (beforeValue ++ Flag.inQuotes value ++ after) := by
  simp [text]

/-- Blanks and a name hold no equals sign. -/
theorem not_mem_equals {ws ws' : List Char} {name : String} (hws : AllBlank ws)
    (hname : IsName name) (hws' : AllBlank ws') : '=' ∉ ws ++ (name.toList ++ ws') := by
  rw [List.mem_append, List.mem_append]
  rintro (hmem | hmem | hmem)
  · exact Flag.not_mem_equals_of_allBlank hws hmem
  · exact Flag.not_mem_equals_of_isName hname hmem
  · exact Flag.not_mem_equals_of_allBlank hws' hmem

/-- **There is one way to cut up a text** that spells a flag. -/
theorem eq_of_text_eq {p q : Spelling} (hp : p.IsProper) (hq : q.IsProper)
    (h : p.text = q.text) : p = q := by
  cases p with
  | atom ws name ws' =>
      obtain ⟨hws, hname, hws'⟩ := hp
      cases q with
      | atom vs name' vs' =>
          obtain ⟨hvs, hname', hvs'⟩ := hq
          obtain ⟨rfl, rfl, rfl⟩ := named_inj hws hname hws' hvs hname' hvs' h
          rfl
      | pair vs key vs₁ vs₂ value vs' =>
          rw [text_pair] at h
          refine absurd ?_ (not_mem_equals hws hname hws')
          rw [show ws ++ (name.toList ++ ws') = _ from h]
          exact List.mem_append_right _ List.mem_cons_self
  | pair ws key us us' value ws' =>
      obtain ⟨hws, hkey, hus, hus', hws'⟩ := hp
      cases q with
      | atom vs name vs' =>
          obtain ⟨hvs, hname, hvs'⟩ := hq
          rw [text_pair] at h
          refine absurd ?_ (not_mem_equals hvs hname hvs')
          rw [show vs ++ (name.toList ++ vs') = _ from h.symm]
          exact List.mem_append_right _ List.mem_cons_self
      | pair vs key' ts ts' value' vs' =>
          obtain ⟨hvs, hkey', hts, hts', hvs'⟩ := hq
          -- neither blanks nor names hold an equals sign, so the first one is where both are cut
          rw [text_pair, text_pair] at h
          have hnone : ∀ {cs : List Char}, '=' ∉ cs → ∀ c ∈ cs, c ≠ '=' :=
            fun hcs c hc heq => hcs (heq ▸ hc)
          have hsign : ∀ cs : List Char, ∀ c ∈ ('=' :: cs).head?, ¬c ≠ '=' :=
            fun cs c hc hne => hne (Option.some.inj hc).symm
          obtain ⟨hfront, hback⟩ :=
            append_inj_of_boundary (hnone (not_mem_equals hws hkey hus))
              (hnone (not_mem_equals hvs hkey' hts)) (hsign _) (hsign _) h
          obtain ⟨rfl, rfl, rfl⟩ := named_inj hws hkey hus hvs hkey' hts hfront
          obtain ⟨rfl, rfl, rfl⟩ := quoted_inj hus' hws' hts' hvs' (List.cons.inj hback).2
          rfl

end Spelling

namespace Flag

/-- A text spells what its pieces say. -/
theorem spells_iff {f : Flag} {cs : List Char} :
    f.Spells cs ↔ ∃ p : Spelling, p.IsProper ∧ p.flag = f ∧ p.text = cs := by
  constructor
  · intro h
    cases h with
    | @atom name ws ws' hname hws hws' =>
        exact ⟨.atom ws name ws', ⟨hws, hname, hws'⟩, rfl, rfl⟩
    | @pair key value ws us us' ws' hkey hws hus hus' hws' =>
        exact ⟨.pair ws key us us' value ws', ⟨hws, hkey, hus, hus', hws'⟩, rfl, rfl⟩
  · rintro ⟨p, hp, rfl, rfl⟩
    cases p with
    | atom ws name ws' => exact .atom hp.2.1 hp.1 hp.2.2
    | pair ws key us us' value ws' =>
        obtain ⟨hws, hkey, hus, hus', hws'⟩ := hp
        exact .pair hkey hws hus hus' hws'

/-! ### Texts that are refused -/

/-- What stands for the name: all before the first equals sign, or the whole text if there is none,
without the blanks at its ends. -/
def nameText (text : String) : String :=
  String.ofList (trimChars (text.toList.takeWhile (· != '=')))

/-- What stands for the value: all after the first equals sign, without the blanks at its ends. -/
def valueText (text : String) : String :=
  String.ofList (trimChars ((text.toList.dropWhile (· != '=')).drop 1))

/-- **Why a text spells no flag**: there is nothing but blanks, or what stands for the name is none,
or else the value has no quotes around it. -/
def refusal (text : String) : ConfigError :=
  if AllBlank text.toList then .emptyFlag
  else if IsName (nameText text) then .unquotedValue (nameText text) (valueText text)
  else .invalidName (nameText text)

theorem isName_iff_ofList {cs : List Char} : isName cs = true ↔ IsName (String.ofList cs) := by
  rw [← isName_iff, String.toList_ofList]

variable {text : String} {cs before after : List Char}

/-- Blanks around a text make no difference to its name if it has no equals sign. -/
theorem nameText_of_no_equals (hcs : trimChars text.toList = cs) (h : '=' ∉ cs) :
    nameText text = String.ofList cs := by
  obtain ⟨-, ws, ws', hws, hws', htext⟩ := trimChars_eq_iff.1 hcs
  have hnone : ∀ c ∈ text.toList, (c != '=') = true := by
    intro c hc
    rw [bne_iff_ne]
    rintro rfl
    rw [htext, List.mem_append, List.mem_append] at hc
    rcases hc with hmem | hmem | hmem
    · exact not_mem_equals_of_allBlank hws hmem
    · exact h hmem
    · exact not_mem_equals_of_allBlank hws' hmem
  have htake : text.toList.takeWhile (· != '=') = text.toList := by
    rw [← List.append_nil text.toList, List.takeWhile_append_of_pos hnone]
    rfl
  rw [nameText, htake, hcs]

/-- Blanks around a text make no difference to its name and its value. -/
theorem texts_of_equals (hcs : trimChars text.toList = before ++ '=' :: after)
    (h : '=' ∉ before) : nameText text = String.ofList (trimChars before) ∧
      valueText text = String.ofList (trimChars after) := by
  obtain ⟨-, ws, ws', hws, hws', htext⟩ := trimChars_eq_iff.1 hcs
  have hfront : ∀ c ∈ ws ++ before, (c != '=') = true := by
    intro c hc
    rw [bne_iff_ne]
    rintro rfl
    rcases List.mem_append.1 hc with hmem | hmem
    · exact not_mem_equals_of_allBlank hws hmem
    · exact h hmem
  have hsplit : text.toList = (ws ++ before) ++ '=' :: (after ++ ws') := by simp [htext]
  constructor
  · rw [nameText, hsplit, List.takeWhile_append_of_pos hfront]
    simp [trimChars_append_left hws]
  · rw [valueText, hsplit, List.dropWhile_append_of_pos hfront]
    simp [trimChars_append_right after hws']

/-- **A text that spells no flag is refused for the reason that it has.** -/
theorem read_of_not_spells (h : ∀ f : Flag, ¬f.Spells text.toList) :
    read text = .error (refusal text) := by
  have hrefused : ∀ f, read text ≠ .ok f := fun f hf => h f (read_eq_ok_iff.1 hf)
  obtain ⟨cs, hcs⟩ : ∃ cs, trimChars text.toList = cs := ⟨_, rfl⟩
  by_cases hblank : AllBlank text.toList
  · have hnil : trimChars text.toList = [] := (trimChars_eq_nil_iff _).2 hblank
    rw [refusal, if_pos hblank, read, hnil]
  have hne : cs ≠ [] := fun hnil => hblank ((trimChars_eq_nil_iff _).1 (hcs.trans hnil))
  by_cases heq : '=' ∈ cs
  · obtain ⟨before, after, rfl, hn⟩ := List.eq_append_cons_of_mem heq
    obtain ⟨hkey, hvalue⟩ := texts_of_equals hcs hn
    have hread := read_of_equals hcs (splitEquals?_eq_some_iff.2 ⟨rfl, hn⟩)
    rw [refusal, if_neg hblank, hkey, hvalue]
    by_cases hname : isName (trimChars before) = true
    · rw [if_pos hname] at hread
      rw [if_pos (isName_iff_ofList.1 hname), hread]
      cases hquotes : unquote? (trimChars after) with
      | none => rfl
      | some value =>
          rw [hquotes, Option.elim_some] at hread
          exact absurd hread (hrefused _)
    · rw [if_neg (mt isName_iff_ofList.2 hname), hread, if_neg hname]
  · have hread := read_of_no_equals hcs hne heq
    rw [refusal, if_neg hblank, nameText_of_no_equals hcs heq]
    by_cases hname : isName cs = true
    · rw [if_pos hname] at hread
      exact absurd hread (hrefused _)
    · rw [if_neg (mt isName_iff_ofList.2 hname), hread, if_neg hname]

end Flag

/-! ### Reading into options -/

namespace Options

theorem readFlag_of_not_spells (o : Options) {text : String}
    (h : ∀ f : Flag, ¬f.Spells text.toList) :
    o.readFlag text = (.error (Flag.refusal text), o) := by
  rw [readFlag, Flag.read_of_not_spells h]

/-- Whether a text is accepted does not depend on the options. -/
theorem readFlag_eq_ok_iff (o : Options) {text : String} :
    (o.readFlag text).1 = .ok () ↔ ∃ f : Flag, f.Spells text.toList := by
  constructor
  · intro hok
    by_contra hnone
    rw [readFlag_of_not_spells o fun f hf => hnone ⟨f, hf⟩] at hok
    cases hok
  · rintro ⟨f, hf⟩
    rw [readFlag_of_spells o hf]

/-- **Reading flags accepts the proper spellings and nothing else.**  A text can be cut up in one
way only, and what its pieces say is switched on, the value character by character, while all other
questions are answered as before.  A text that cannot be cut up so is refused for the reason that it
has, and the options stay as they are. -/
theorem readFlag_iff_spelling (o : Options) (text : String) :
    ((o.readFlag text).1 = .ok () ↔ ∃ p : Spelling, p.IsProper ∧ p.text = text.toList) ∧
    (∀ p q : Spelling, p.IsProper → q.IsProper → p.text = text.toList → q.text = text.toList →
      p = q) ∧
    (∀ p : Spelling, p.IsProper → p.text = text.toList →
      (∀ name, (o.readFlag text).2.isSet name = true ↔
        p.flag = .atom name ∨ o.isSet name = true) ∧
      ∀ key value, (o.readFlag text).2.hasPair key value = true ↔
        p.flag = .pair key value ∨ o.hasPair key value = true) ∧
    ((¬∃ p : Spelling, p.IsProper ∧ p.text = text.toList) →
      o.readFlag text = (.error (Flag.refusal text), o)) := by
  have hspelled : (∃ f : Flag, f.Spells text.toList) ↔
      ∃ p : Spelling, p.IsProper ∧ p.text = text.toList := by
    constructor
    · rintro ⟨f, hf⟩
      obtain ⟨p, hp, -, htext⟩ := Flag.spells_iff.1 hf
      exact ⟨p, hp, htext⟩
    · rintro ⟨p, hp, htext⟩
      exact ⟨p.flag, Flag.spells_iff.2 ⟨p, hp, rfl, htext⟩⟩
  refine ⟨(readFlag_eq_ok_iff o).trans hspelled, ?_, ?_, ?_⟩
  · intro p q hp hq htext htext'
    exact Spelling.eq_of_text_eq hp hq (htext.trans htext'.symm)
  · intro p hp htext
    rw [readFlag_of_spells o (Flag.spells_iff.2 ⟨p, hp, rfl, htext⟩)]
    constructor
    · intro name
      rw [isSet_insertFlag, Bool.or_eq_true, decide_eq_true_eq]
    · intro key value
      rw [hasPair_insertFlag, Bool.or_eq_true, decide_eq_true_eq]
  · intro hnone
    exact readFlag_of_not_spells o fun f hf => hnone (hspelled.1 ⟨f, hf⟩)

/-- A value may hold quotes, an equals sign and blanks at its ends.  A single quote is no pair of
them. -/
theorem readFlag_iff_spelling_quoted :
    (Spelling.pair [] "key" ['\t'] ['\u2003'] " \"=\" " ['\n']).IsProper ∧
      (empty.readFlag "key\t=\u2003\" \"=\" \"\n").2.hasPair "key" " \"=\" " = true ∧
      empty.readFlag " key = \"" = (.error (.unquotedValue "key" "\""), empty) := by
  have hproper : (Spelling.pair [] "key" ['\t'] ['\u2003'] " \"=\" " ['\n']).IsProper :=
    ⟨by decide, by decide, by decide, by decide, by decide⟩
  refine ⟨hproper, ?_, ?_⟩
  · obtain ⟨-, -, heffect, -⟩ :=
      readFlag_iff_spelling empty "key\t=\u2003\" \"=\" \"\n"
    exact ((heffect _ hproper (by decide)).2 _ _).2 (Or.inl rfl)
  · obtain ⟨haccepts, -, -, hrefuses⟩ := readFlag_iff_spelling empty " key = \""
    refine hrefuses fun hspelled => ?_
    have hok : (empty.readFlag " key = \"").1 = .ok () := haccepts.2 hspelled
    cases hok

end Options

end Config

end SurfaceTree
