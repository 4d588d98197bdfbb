/-
Blank characters, and the trimming of text.

Main definitions:

* `Text.isBlank` — membership in the Unicode property `White_Space`;
* `Text.trimChars`, `Text.trim` — removal of the blanks at both ends;
* `Text.AllBlank`, `Text.IsTrimmed` — a run of blanks, and what has none at its ends.

Main results:

* `Text.isBlank_of_isWhitespace` — the ASCII blanks are blank;
* `Text.trimChars_eq_nil_iff` — trimming leaves nothing exactly of a run of blanks;
* `Text.trimChars_eq_iff` — trimming leaves what stands between two runs of blanks and has none at
  its own ends.
-/

import SurfaceTree.Text.Ranges

set_option relaxedAutoImplicit false
set_option autoImplicit false

namespace SurfaceTree.Text

/-- The code point ranges of the Unicode property `White_Space`, both ends included. -/
def blankRanges : List (Nat × Nat) :=
  [(0x09, 0x0D), (0x20, 0x20), (0x85, 0x85), (0xA0, 0xA0), (0x1680, 0x1680), (0x2000, 0x200A),
    (0x2028, 0x2029), (0x202F, 0x202F), (0x205F, 0x205F), (0x3000, 0x3000)]

/-- A character is blank if one of the ranges holds it. -/
def isBlank (c : Char) : Bool := inRanges blankRanges c

/-- The characters between the blanks at the two ends. -/
def trimChars (cs : List Char) : List Char :=
  ((cs.dropWhile isBlank).reverse.dropWhile isBlank).reverse

/-- The text without the blanks at its two ends. -/
def trim (s : String) : String := String.ofList (trimChars s.toList)

theorem isBlank_of_isWhitespace (c : Char) (h : c.isWhitespace = true) : isBlank c = true := by
  simp only [Char.isWhitespace, Bool.or_eq_true, decide_eq_true_eq] at h
  rcases h with ((rfl | rfl) | rfl) | rfl <;> decide

@[simp] theorem trimChars_nil : trimChars [] = [] := rfl

/-- What is left after dropping a prefix of blanks is empty exactly when all is blank. -/
theorem dropWhile_isBlank_eq_nil_iff (cs : List Char) :
    cs.dropWhile isBlank = [] ↔ ∀ c ∈ cs, isBlank c = true := by
  induction cs with
  | nil => simp
  | cons c cs ih =>
      by_cases h : isBlank c = true
      · simp [h, ih]
      · simp [h]

/-- Dropping blanks keeps every character that is not blank. -/
theorem mem_dropWhile_isBlank {cs : List Char} {c : Char} (hc : c ∈ cs)
    (h : isBlank c = false) : c ∈ cs.dropWhile isBlank := by
  induction cs with
  | nil => simp at hc
  | cons d ds ih =>
      rcases List.mem_cons.1 hc with rfl | hd
      · simp [h]
      · by_cases hb : isBlank d = true
        · simpa [hb] using ih hd
        · simp [hb, hd]

/-- Trimming leaves nothing exactly of a run of blanks. -/
theorem trimChars_eq_nil_iff (cs : List Char) :
    trimChars cs = [] ↔ ∀ c ∈ cs, isBlank c = true := by
  rw [trimChars, List.reverse_eq_nil_iff, dropWhile_isBlank_eq_nil_iff]
  constructor
  · intro h c hc
    by_cases hb : isBlank c = true
    · exact hb
    · exact h c (List.mem_reverse.2 (mem_dropWhile_isBlank hc (by simpa using hb)))
  · intro h c hc
    exact h c ((List.dropWhile_sublist _).subset (List.mem_reverse.1 hc))

/-- A run of blanks. -/
def AllBlank (ws : List Char) : Prop := ∀ c ∈ ws, isBlank c = true

/-- There is no blank at either end. -/
def IsTrimmed (cs : List Char) : Prop :=
  (∀ c ∈ cs.head?, isBlank c = false) ∧ ∀ c ∈ cs.getLast?, isBlank c = false

variable {ws ws' cs ds : List Char}

theorem AllBlank.reverse (h : AllBlank ws) : AllBlank ws.reverse := fun c hc =>
  h c (List.mem_reverse.1 hc)

theorem AllBlank.append (hws : AllBlank ws) (hws' : AllBlank ws') : AllBlank (ws ++ ws') := by
  intro c hc
  rcases List.mem_append.1 hc with hc | hc
  · exact hws c hc
  · exact hws' c hc

theorem AllBlank.dropWhile_append (hws : AllBlank ws) (hcs : ∀ c ∈ cs.head?, isBlank c = false) :
    (ws ++ cs).dropWhile isBlank = cs := by
  rw [List.dropWhile_append_of_pos hws]
  cases cs with
  | nil => rfl
  | cons c cs =>
      have hc : ¬ isBlank c = true := by simpa using hcs c rfl
      exact List.dropWhile_cons_of_neg hc

/-- A text between two texts without blanks at their ends is not at an end. -/
theorem IsTrimmed.append (hcs : IsTrimmed cs) (hds : IsTrimmed ds) (hcs' : cs ≠ []) (hds' : ds ≠ [])
    (ms : List Char) : IsTrimmed (cs ++ ms ++ ds) := by
  constructor
  · obtain ⟨c, cs, rfl⟩ := List.exists_cons_of_ne_nil hcs'
    exact hcs.1
  · have hlast : (cs ++ ms ++ ds).getLast? = ds.getLast? := by
      rw [List.getLast?_append, List.getLast?_eq_some_getLast hds', Option.some_or]
    rw [hlast]
    exact hds.2

/-- Blanks are taken away at both ends. -/
theorem IsTrimmed.trimChars_append (h : IsTrimmed cs) (hws : AllBlank ws) (hws' : AllBlank ws') :
    trimChars (ws ++ (cs ++ ws')) = cs := by
  cases cs with
  | nil => exact (trimChars_eq_nil_iff _).2 (hws.append hws')
  | cons c cs =>
      have hfront : (ws ++ (c :: cs ++ ws')).dropWhile isBlank = c :: cs ++ ws' :=
        hws.dropWhile_append h.1
      have hback : (ws'.reverse ++ (c :: cs).reverse).dropWhile isBlank = (c :: cs).reverse := by
        refine hws'.reverse.dropWhile_append ?_
        rw [List.head?_reverse]
        exact h.2
      rw [trimChars, hfront, List.reverse_append, hback, List.reverse_reverse]

/-- Dropping takes away blanks, and leaves none in front. -/
theorem exists_allBlank_dropWhile (cs : List Char) :
    (∀ c ∈ (cs.dropWhile isBlank).head?, isBlank c = false) ∧
      ∃ ws, AllBlank ws ∧ cs = ws ++ cs.dropWhile isBlank := by
  refine ⟨fun c hc => ?_, cs.takeWhile isBlank, ?_, List.takeWhile_append_dropWhile.symm⟩
  · have hhead : (cs.dropWhile isBlank).head? = some c := hc
    simpa [hhead] using List.head?_dropWhile_not isBlank cs
  · exact List.all_eq_true.1 List.all_takeWhile

/-- **Trimming** leaves what stands between two runs of blanks and has none at its own ends. -/
theorem trimChars_eq_iff :
    trimChars cs = ds ↔
      IsTrimmed ds ∧ ∃ ws ws', AllBlank ws ∧ AllBlank ws' ∧ cs = ws ++ (ds ++ ws') := by
  constructor
  · rintro rfl
    obtain ⟨hfront, ws, hws, hcs⟩ := exists_allBlank_dropWhile cs
    obtain ⟨hback, ws', hws', hrest⟩ := exists_allBlank_dropWhile (cs.dropWhile isBlank).reverse
    have hsplit : cs.dropWhile isBlank = trimChars cs ++ ws'.reverse := by
      rw [trimChars, ← List.reverse_append, ← hrest, List.reverse_reverse]
    refine ⟨⟨fun c hc => hfront c ?_, fun c hc => hback c ?_⟩, ws, ws'.reverse, hws,
      hws'.reverse, ?_⟩
    · rw [hsplit, List.head?_append, Option.mem_def.1 hc]
      rfl
    · rwa [trimChars, List.getLast?_reverse] at hc
    · rw [← hsplit]
      exact hcs
  · rintro ⟨h, ws, ws', hws, hws', rfl⟩
    exact h.trimChars_append hws hws'

end SurfaceTree.Text
