/-
The names of options.

A name is a letter or an underscore, and then any number of letters, underscores and digits, all of
them ASCII.  No sign that stands around a name in a flag or in a condition can be part of it, and
that is how names are told from what surrounds them.

Main definitions:

* `Config.IsNameStart`, `Config.IsNamePart` — the characters that a name starts with, and those
  that it goes on with;
* `Config.IsName` — a text is a name;
* `Config.Flag.name` — the name that a flag is about.

Main results:

* `Config.isName_iff` — the check of a text accepts the names;
* `Config.IsNamePart.isBlank_eq_false` — no name holds a blank;
* `Config.append_inj_of_boundary` — **a longest run ends in one place only**.
-/

import SurfaceTree.Config.Flag

set_option relaxedAutoImplicit false
set_option autoImplicit false

namespace SurfaceTree.Config

/-! ### Characters -/

/-- The characters that a name starts with: `A` to `Z`, `a` to `z` and the underscore. -/
def IsNameStart (c : Char) : Prop := ('A' ≤ c ∧ c ≤ 'Z') ∨ ('a' ≤ c ∧ c ≤ 'z') ∨ c = '_'

/-- The characters that a name goes on with: those it starts with, and `0` to `9`. -/
def IsNamePart (c : Char) : Prop := IsNameStart c ∨ ('0' ≤ c ∧ c ≤ '9')

instance : DecidablePred IsNameStart := fun c =>
  inferInstanceAs (Decidable (('A' ≤ c ∧ c ≤ 'Z') ∨ ('a' ≤ c ∧ c ≤ 'z') ∨ c = '_'))

instance : DecidablePred IsNamePart := fun c =>
  inferInstanceAs (Decidable (IsNameStart c ∨ ('0' ≤ c ∧ c ≤ '9')))

variable {c : Char}

theorem isNameStart_iff : (c.isAlpha || c == '_') = true ↔ IsNameStart c := by
  have hupper : c.isUpper = decide ('A' ≤ c ∧ c ≤ 'Z') := rfl
  have hlower : c.isLower = (decide ('a' ≤ c) && decide (c ≤ 'z')) := rfl
  have halpha : c.isAlpha = (c.isUpper || c.isLower) := rfl
  rw [halpha, hupper, hlower, ← Bool.decide_and, Bool.or_eq_true, Bool.or_eq_true,
    decide_eq_true_eq, decide_eq_true_eq, beq_iff_eq, or_assoc, IsNameStart]

theorem isNamePart_iff : (c.isAlphanum || c == '_') = true ↔ IsNamePart c := by
  have hdigit : c.isDigit = (decide ('0' ≤ c) && decide (c ≤ '9')) := rfl
  have halphanum : c.isAlphanum = (c.isAlpha || c.isDigit) := rfl
  rw [halphanum, Bool.or_right_comm, Bool.or_eq_true, isNameStart_iff, hdigit, ← Bool.decide_and,
    decide_eq_true_eq, IsNamePart]

/-- No character of a name is a blank. -/
theorem IsNamePart.isBlank_eq_false (h : IsNamePart c) : Text.isBlank c = false := by
  have hcode : ((0x41 ≤ c.toNat ∧ c.toNat ≤ 0x5A) ∨ (0x61 ≤ c.toNat ∧ c.toNat ≤ 0x7A) ∨ c = '_') ∨
      (0x30 ≤ c.toNat ∧ c.toNat ≤ 0x39) := h
  have hbounds : 0x30 ≤ c.toNat ∧ c.toNat ≤ 0x7A := by
    rcases hcode with (h | h | rfl) | h
    · omega
    · omega
    · decide
    · omega
  rw [Bool.eq_false_iff]
  intro hb
  obtain ⟨r, hr, hlo, hhi⟩ := (Text.inRanges_iff Text.blankRanges c).1 hb
  -- the ranges of blanks leave out all code points from the digits to the small letters
  have hgap : ∀ r ∈ Text.blankRanges, r.2 < 0x30 ∨ 0x7A < r.1 := by decide
  have := hgap r hr
  omega

/-! ### Names -/

/-- A text is a name. -/
def IsName (text : String) : Prop :=
  ∃ c cs, text.toList = c :: cs ∧ IsNameStart c ∧ ∀ d ∈ cs, IsNamePart d

/-- The check of a text accepts the names. -/
theorem isName_iff {text : String} : isName text.toList = true ↔ IsName text := by
  unfold IsName
  cases text.toList with
  | nil => simp [isName]
  | cons c cs =>
      simp only [isName, Bool.and_eq_true, List.all_eq_true, isNameStart_iff, isNamePart_iff]
      constructor
      · rintro ⟨hc, hcs⟩
        exact ⟨c, cs, rfl, hc, hcs⟩
      · rintro ⟨d, ds, h, hd, hds⟩
        obtain ⟨rfl, rfl⟩ := List.cons.inj h
        exact ⟨hd, hds⟩

instance : DecidablePred IsName := fun _ => decidable_of_iff _ isName_iff

variable {text : String}

theorem IsName.isNamePart (h : IsName text) : ∀ c ∈ text.toList, IsNamePart c := by
  obtain ⟨c, cs, htext, hc, hcs⟩ := h
  intro d hd
  rw [htext] at hd
  rcases List.mem_cons.1 hd with rfl | hd
  · exact Or.inl hc
  · exact hcs d hd

theorem IsName.toList_ne_nil (h : IsName text) : text.toList ≠ [] := by
  obtain ⟨c, cs, htext, -⟩ := h
  rw [htext]
  exact List.cons_ne_nil c cs

/-- The name that a flag is about. -/
def Flag.name : Flag → String
  | .atom name => name
  | .pair key _ => key

/-! ### Where a run ends -/

/-- **A longest run ends in one place only.**  If a text starts with characters of some kind and
goes on with none of them, both parts are determined. -/
theorem append_inj_of_boundary {P : Char → Prop} {as bs ss ts : List Char} (ha : ∀ c ∈ as, P c)
    (hb : ∀ c ∈ bs, P c) (hs : ∀ c ∈ ss.head?, ¬ P c) (ht : ∀ c ∈ ts.head?, ¬ P c)
    (h : as ++ ss = bs ++ ts) : as = bs ∧ ss = ts := by
  rcases List.append_eq_append_iff.1 h with ⟨cs, rfl, rfl⟩ | ⟨cs, rfl, rfl⟩
  · cases cs with
    | nil => exact ⟨(List.append_nil as).symm, rfl⟩
    | cons c cs => exact absurd (hb c (by simp)) (hs c (by simp))
  · cases cs with
    | nil => exact ⟨List.append_nil bs, rfl⟩
    | cons c cs => exact absurd (ha c (by simp)) (ht c (by simp))

end SurfaceTree.Config
