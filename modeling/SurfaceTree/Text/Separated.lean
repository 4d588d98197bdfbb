/-
Texts one after another, with a separator between them.

Two kinds of loops write such lists.  One counts: what comes in front of a text depends on how many
were written before it.  The other only remembers whether anything was written yet; so it can go on
from one list to the next, and to a mark after the last of them.

Main definitions:

* `Text.writeFrom` — the loop that counts, with `Text.separated` for a separator in front of all
  texts but the first;
* `Text.Line`, `Text.Line.add`, `Text.Line.addAll` — the loop that remembers.

Main results:

* `Text.writeFrom_cons`, `Text.separated_eq_intercalate` — **the loop that counts** joins the texts;
* `Text.Line.addAll_start` — and so does **the loop that remembers**.
-/

set_option relaxedAutoImplicit false
set_option autoImplicit false

namespace SurfaceTree.Text

/-! ### The loop that counts -/

/-- Writes some texts behind what is written already.  What comes in front of each depends on its
index, which goes on from `i`. -/
def writeFrom (before : Nat → String) : String → Nat → List String → String
  | written, _, [] => written
  | written, i, t :: ts => writeFrom before (written ++ before i ++ t) (i + 1) ts

/-- Some texts, each but the first after a separator. -/
def separated (sep : String) (texts : List String) : String :=
  writeFrom (fun i => if 0 < i then sep else "") "" 0 texts

/-- If the separator comes in front of all texts after the first, the texts are joined by it. -/
theorem writeFrom_cons {before : Nat → String} {sep : String} (h : ∀ i, before (i + 1) = sep)
    (written : String) (i : Nat) (t : String) (ts : List String) :
    writeFrom before written i (t :: ts) = written ++ before i ++ sep.intercalate (t :: ts) := by
  induction ts generalizing written i t with
  | nil => rw [writeFrom, writeFrom, String.intercalate_singleton]
  | cons u ts ih =>
      rw [writeFrom, ih, h, String.intercalate_cons_cons]
      simp only [String.append_assoc]

@[simp] theorem separated_eq_intercalate (sep : String) (texts : List String) :
    separated sep texts = sep.intercalate texts := by
  cases texts with
  | nil => rfl
  | cons t ts =>
      rw [separated, writeFrom_cons fun i => if_pos (Nat.succ_pos i), if_neg (Nat.lt_irrefl 0),
        String.empty_append, String.empty_append]

/-! ### The loop that remembers -/

/-- A line that is being written. -/
structure Line where
  /-- What is written so far. -/
  text : String
  /-- The next part is the first. -/
  isFirst : Bool

namespace Line

/-- A line in which no part is written yet. -/
def start (text : String) : Line := ⟨text, true⟩

/-- Gets ready for one more part: a separator is written, unless the part is the first. -/
def separate (sep : String) (l : Line) : Line :=
  if l.isFirst then { l with isFirst := false } else { l with text := l.text ++ sep }

/-- Writes one more part. -/
def add (sep : String) (l : Line) (part : String) : Line :=
  let l := l.separate sep
  { l with text := l.text ++ part }

/-- Writes the parts of a list. -/
def addAll (sep : String) (l : Line) (parts : List String) : Line := parts.foldl (add sep) l

variable (sep : String)

theorem addAll_append (l : Line) (parts others : List String) :
    l.addAll sep (parts ++ others) = (l.addAll sep parts).addAll sep others := List.foldl_append

/-- Behind the first part, every other one has a separator in front of it. -/
theorem addAll_cons (l : Line) (part : String) (parts : List String) :
    l.addAll sep (part :: parts) =
      ⟨(l.separate sep).text ++ sep.intercalate (part :: parts), false⟩ := by
  induction parts generalizing l part with
  | nil =>
      rw [String.intercalate_singleton]
      cases l with
      | mk text isFirst => cases isFirst <;> rfl
  | cons other parts ih =>
      have hnext : ((l.add sep part).separate sep).text = (l.separate sep).text ++ part ++ sep := by
        cases l with
        | mk text isFirst => cases isFirst <;> rfl
      rw [addAll, List.foldl_cons, ← addAll, ih, hnext, String.intercalate_cons_cons]
      simp only [String.append_assoc]

/-- A line of some parts: they are joined by the separator, and it is known whether there were
any. -/
theorem addAll_start (text : String) (parts : List String) :
    (start text).addAll sep parts = ⟨text ++ sep.intercalate parts, parts.isEmpty⟩ := by
  cases parts with
  | nil => rw [String.intercalate_nil, String.append_empty]; rfl
  | cons part parts => exact addAll_cons sep (start text) part parts

end Line

end SurfaceTree.Text
