/-
What is seen of a text outside all brackets.

In the text of a type, brackets of three kinds are nested in one another, and what stands inside of
them is not seen from outside.  An arrow would spoil this with its tip; so its hyphen is taken for a
bracket, too, which the tip closes at once.

A text in which every bracket is closed can be read at any depth and whatever comes after it.  All
that it contributes is what is seen of it.  So it cannot go on behind a bracket that closes another
such text, and if no comma is seen of it, it cannot go on behind a comma either: both tell where
texts end that are written one after another.

Main definitions:

* `Text.outside` — the characters that are met at depth zero;
* `Text.Reads` — a text leads from one depth to another, and some characters of it are seen;
* `Text.Balanced` — a text has its brackets closed;
* `Text.Crosses`, `Text.Shows` — of a type, a plus sign is seen or none is, no comma and no dot, and
  colons in pairs only;
* `Text.Uncut` — no comma is seen.

Main results:

* `Text.Reads.append`, `Text.Crosses.append` — **texts one after another**;
* `Text.Balanced.inside` — **behind an open bracket, nothing is seen**;
* `Text.Crosses.separated` — texts with a separator between them;
* `Text.Balanced.closing_inj` — **a bracket is closed in one place only**;
* `Text.eq_of_joined_eq` — **a list with commas is cut in one way only**.
-/

import SurfaceTree.Proofs.Joined
import SurfaceTree.Proofs.Named

set_option relaxedAutoImplicit false
set_option autoImplicit false

namespace SurfaceTree.Text

/-! ### Reading a text -/

/-- The signs that are closed later on. -/
def isOpening (c : Char) : Bool := c == '(' || c == '[' || c == '<' || c == '-'

/-- The signs that close what was opened last. -/
def isClosing (c : Char) : Bool := c == ')' || c == ']' || c == '>'

/-- The characters that are met at depth zero, if the text starts at some depth. -/
def outside : Nat → List Char → List Char
  | _, [] => []
  | depth, c :: cs =>
      if isOpening c then outside (depth + 1) cs
      else if isClosing c then outside (depth - 1) cs
      else if depth = 0 then c :: outside depth cs
      else outside depth cs

/-- A text leads from depth `k` to depth `l`, and from any greater depth as far; and `out` is what
is seen of it if the lower end of the way is depth zero.  Whatever comes before and after the text,
this is all that matters. -/
def Reads (text : String) (k l : Nat) (out : List Char) : Prop :=
  ∀ depth rest, outside (depth + k) (text.toList ++ rest) =
    (if depth = 0 then out else []) ++ outside (depth + l) rest

/-- The brackets of a text are closed in it. -/
def Balanced (text : String) : Prop := ∃ out, Reads text 0 0 out

/-- No comma is seen of a text, and its brackets are closed in it. -/
def Uncut (text : String) : Prop := ∃ out, Reads text 0 0 out ∧ ',' ∉ out

/-- There is no comma and no dot, and colons come in pairs. -/
def Tidy (out : List Char) : Prop := ',' ∉ out ∧ '.' ∉ out ∧ out.count ':' % 2 = 0

instance : DecidablePred Tidy := fun out =>
  inferInstanceAs (Decidable (',' ∉ out ∧ '.' ∉ out ∧ out.count ':' % 2 = 0))

/-- A text leads from one depth to another, and what is seen of it is as it is with types; `plus`
tells whether it has a plus sign in it. -/
def Crosses (text : String) (k l : Nat) (plus : Bool) : Prop :=
  ∃ out, Reads text k l out ∧ Tidy out ∧ out.contains '+' = plus

/-- The brackets of a text are closed in it, and what is seen of it is as it is with types. -/
abbrev Shows (text : String) (plus : Bool) : Prop := Crosses text 0 0 plus

variable {s t : String} {k l m : Nat} {a b : Bool} {out out' : List Char}

/-- What is seen of a text is found in it. -/
theorem Reads.eq (h : Reads s 0 0 out) : outside 0 s.toList = out := by
  simpa [outside] using h 0 []

theorem Reads.balanced (h : Reads s 0 0 out) : Balanced s := ⟨out, h⟩

theorem Balanced.reads (h : Balanced s) : Reads s 0 0 (outside 0 s.toList) := by
  obtain ⟨out, hs⟩ := h
  rwa [hs.eq]

theorem Crosses.balanced (h : Shows s a) : Balanced s := by
  obtain ⟨out, hs, -⟩ := h
  exact hs.balanced

theorem Crosses.uncut (h : Shows s a) : Uncut s := by
  obtain ⟨out, hs, htidy, -⟩ := h
  exact ⟨out, hs, htidy.1⟩

/-- Whether a plus sign is seen is found in the text, and so is all else. -/
theorem Crosses.outside_eq (h : Shows s a) :
    Tidy (outside 0 s.toList) ∧ (outside 0 s.toList).contains '+' = a := by
  obtain ⟨out, hs, htidy, hplus⟩ := h
  rw [hs.eq]
  exact ⟨htidy, hplus⟩

/-! ### Texts that are put together -/

theorem Reads.append (hs : Reads s k l out) (ht : Reads t l m out') :
    Reads (s ++ t) k m (out ++ out') := by
  intro depth rest
  rw [String.toList_append, List.append_assoc, hs, ht]
  by_cases hdepth : depth = 0
  · rw [if_pos hdepth, if_pos hdepth, if_pos hdepth, List.append_assoc]
  · rw [if_neg hdepth, if_neg hdepth, if_neg hdepth, List.nil_append, List.nil_append]

theorem Tidy.append (h : Tidy out) (h' : Tidy out') : Tidy (out ++ out') := by
  obtain ⟨hcomma, hdot, hcolons⟩ := h
  obtain ⟨hcomma', hdot', hcolons'⟩ := h'
  refine ⟨by simp [hcomma, hcomma'], by simp [hdot, hdot'], ?_⟩
  rw [List.count_append]
  omega

theorem Crosses.append (hs : Crosses s k l a) (ht : Crosses t l m b) :
    Crosses (s ++ t) k m (a || b) := by
  obtain ⟨out, hs, htidy, rfl⟩ := hs
  obtain ⟨out', ht, htidy', rfl⟩ := ht
  exact ⟨out ++ out', hs.append ht, htidy.append htidy', by simp⟩

theorem Balanced.append (hs : Balanced s) (ht : Balanced t) : Balanced (s ++ t) :=
  (hs.reads.append ht.reads).balanced

theorem Uncut.balanced (h : Uncut s) : Balanced s := by
  obtain ⟨out, hs, -⟩ := h
  exact hs.balanced

theorem Uncut.append (hs : Uncut s) (ht : Uncut t) : Uncut (s ++ t) := by
  obtain ⟨out, hs, hcomma⟩ := hs
  obtain ⟨out', ht, hcomma'⟩ := ht
  exact ⟨out ++ out', hs.append ht, by simp [hcomma, hcomma']⟩

/-- **Behind an open bracket, nothing is seen** of a text. -/
theorem Balanced.inside (h : Balanced s) : Crosses s 1 1 false := by
  obtain ⟨out, hs⟩ := h
  refine ⟨[], fun depth rest => ?_, by decide, rfl⟩
  rw [hs (depth + 1) rest, if_neg (Nat.succ_ne_zero depth), ite_self]

theorem Balanced.empty : Balanced "" := ⟨[], fun depth rest => by rw [ite_self]; rfl⟩

theorem shows_empty : Shows "" false := by
  obtain ⟨out, h⟩ := Balanced.empty
  exact ⟨out, h, h.eq ▸ by decide, by rw [← h.eq]; rfl⟩

/-- A separator is seen as soon as there are two texts to separate. -/
theorem Crosses.separated {α : Type} {f : α → String} {g : α → Bool} (hs : Shows s a)
    {xs : List α} (h : ∀ x ∈ xs, Shows (f x) (g x)) :
    Shows (separated s (xs.map f)) (a && decide (2 ≤ xs.length) || xs.any g) := by
  rw [separated_eq_joined]
  induction xs with
  | nil => simpa using shows_empty
  | cons x xs ih =>
      have hx : Shows (f x) (g x) := h x List.mem_cons_self
      cases xs with
      | nil => simpa using hx
      | cons y ys =>
          have hys := ih fun z hz => h z (List.mem_cons_of_mem x hz)
          have hall := (hx.append hs).append hys
          have hplus : (g x || a || (a && decide (2 ≤ (y :: ys).length) || (y :: ys).any g)) =
              (a && decide (2 ≤ (x :: y :: ys).length) || (x :: y :: ys).any g) := by
            cases a <;> simp
          rw [List.map_cons, List.map_cons, joined_cons_cons, ← List.map_cons, ← hplus]
          exact hall

theorem Balanced.separated {texts : List String} (hs : Balanced s)
    (h : ∀ text ∈ texts, Balanced text) : Balanced (separated s texts) := by
  rw [separated_eq_joined]
  induction texts with
  | nil => exact Balanced.empty
  | cons text texts ih =>
      have htext : Balanced text := h text List.mem_cons_self
      cases texts with
      | nil => rwa [joined_singleton]
      | cons next texts =>
          rw [joined_cons_cons]
          exact (htext.append hs).append (ih fun t ht => h t (List.mem_cons_of_mem text ht))

/-! ### Texts without brackets -/

/-- There are no brackets in a text. -/
def IsPlain (s : String) : Prop := ∀ c ∈ s.toList, isOpening c = false ∧ isClosing c = false

instance : DecidablePred IsPlain := fun s =>
  List.decidableBAll (fun c => isOpening c = false ∧ isClosing c = false) s.toList

/-- All of a text without brackets is seen. -/
theorem IsPlain.reads (h : IsPlain s) : Reads s 0 0 s.toList := by
  have hscan : ∀ (cs : List Char), (∀ c ∈ cs, isOpening c = false ∧ isClosing c = false) →
      ∀ depth rest, outside depth (cs ++ rest) =
        (if depth = 0 then cs else []) ++ outside depth rest := by
    intro cs hcs depth rest
    induction cs with
    | nil => rw [ite_self, List.nil_append, List.nil_append]
    | cons c cs ih =>
        obtain ⟨hopening, hclosing⟩ := hcs c List.mem_cons_self
        have hrest := ih fun d hd => hcs d (List.mem_cons_of_mem c hd)
        by_cases hdepth : depth = 0 <;> simp_all [outside]
  exact hscan s.toList h

theorem IsPlain.balanced (h : IsPlain s) : Balanced s := h.reads.balanced

theorem IsPlain.shows (h : IsPlain s) (htidy : Tidy s.toList) :
    Shows s (s.toList.contains '+') := ⟨s.toList, h.reads, htidy, rfl⟩

/-- A text without brackets in which there is nothing that types do not show, and no plus sign. -/
theorem shows_of_plain (h : IsPlain s ∧ Tidy s.toList ∧ s.toList.contains '+' = false) :
    Shows s false := by
  obtain ⟨hplain, htidy, hplus⟩ := h
  exact hplus ▸ hplain.shows htidy

/-- A character that names may have in them is none of the signs that matter. -/
theorem isPlain_of_isNamePart (h : ∀ c ∈ s.toList, Config.IsNamePart c) : IsPlain s := by
  intro c hc
  have hne : ∀ d, ¬Config.IsNamePart d → (c == d) = false := fun d hd =>
    beq_eq_false_iff_ne.2 fun hcd => hd (hcd ▸ h c hc)
  constructor
  · rw [isOpening, hne '(' (by decide), hne '[' (by decide), hne '<' (by decide),
      hne '-' (by decide)]
    rfl
  · rw [isClosing, hne ')' (by decide), hne ']' (by decide), hne '>' (by decide)]
    rfl

theorem shows_of_isNamePart (h : ∀ c ∈ s.toList, Config.IsNamePart c) : Shows s false := by
  have hnot : ∀ {c : Char}, ¬Config.IsNamePart c → c ∉ s.toList := fun hc hmem => hc (h _ hmem)
  have htidy : Tidy s.toList :=
    ⟨hnot (by decide), hnot (by decide), by rw [List.count_eq_zero_of_not_mem (hnot (by decide))]⟩
  have hplus : s.toList.contains '+' = false := by
    rw [← Bool.not_eq_true, List.contains_iff_mem]
    exact hnot (by decide)
  exact shows_of_plain ⟨isPlain_of_isNamePart h, htidy, hplus⟩

theorem shows_toString (n : Nat) : Shows (toString n) false := by
  refine shows_of_isNamePart fun c hc => ?_
  rw [Nat.toString_eq_repr, Nat.toList_repr] at hc
  have hdigit : c.isDigit = true := Nat.isDigit_of_mem_toDigits (by decide) (by decide) hc
  exact Config.isNamePart_iff.1 (by simp [Char.isAlphanum, hdigit])

/-! ### Signs

A fixed text is read sign by sign, at the surface and below it. -/

theorem balanced_comma : Balanced ", " := IsPlain.balanced (by decide)

theorem shows_colons : Shows "::" false := shows_of_plain (by decide)

theorem shows_plus : Shows " + " true := IsPlain.shows (by decide) (by decide)

theorem shows_arrow : Shows " -> " false :=
  ⟨[' ', ' '], fun depth _ => by cases depth <;> rfl, by decide, rfl⟩

theorem opens_angle : Crosses "<" 0 1 false :=
  ⟨[], fun depth _ => by cases depth <;> rfl, by decide, rfl⟩

theorem closes_angle : Crosses ">" 1 0 false :=
  ⟨[], fun depth _ => by cases depth <;> rfl, by decide, rfl⟩

theorem opens_round : Crosses "(" 0 1 false :=
  ⟨[], fun depth _ => by cases depth <;> rfl, by decide, rfl⟩

theorem closes_round : Crosses ")" 1 0 false :=
  ⟨[], fun depth _ => by cases depth <;> rfl, by decide, rfl⟩

theorem opens_square : Crosses "[" 0 1 false :=
  ⟨[], fun depth _ => by cases depth <;> rfl, by decide, rfl⟩

theorem closes_square : Crosses "]" 1 0 false :=
  ⟨[], fun depth _ => by cases depth <;> rfl, by decide, rfl⟩

/-! ### Where a text ends -/

/-- If neither of two texts goes on behind the sign that comes after the other, they are the same
text. -/
theorem append_cons_inj {xs ys rs ss : List Char} {c d : Char} (hx : ∀ zs, xs ≠ ys ++ d :: zs)
    (hy : ∀ zs, ys ≠ xs ++ c :: zs) (h : xs ++ c :: rs = ys ++ d :: ss) : xs = ys ∧ rs = ss := by
  rcases List.append_eq_append_iff.1 h with ⟨zs, hzs, hrest⟩ | ⟨zs, hzs, hrest⟩
  · cases zs with
    | nil => simp_all
    | cons z zs =>
        obtain ⟨rfl, -⟩ := List.cons.inj hrest
        exact absurd hzs (hy zs)
  · cases zs with
    | nil => simp_all
    | cons z zs =>
        obtain ⟨rfl, -⟩ := List.cons.inj hrest
        exact absurd hzs (hx zs)

theorem isOpening_eq_false_of_isClosing {c : Char} (h : isClosing c = true) :
    isOpening c = false := by
  simp only [isClosing, Bool.or_eq_true, beq_iff_eq] at h
  rcases h with (rfl | rfl) | rfl <;> rfl

/-- Behind a bracket that closes more than was opened, a text in which all brackets are closed does
not go on. -/
theorem Balanced.ne_append_closing (hs : Balanced s) (ht : Balanced t) {c : Char}
    (hc : isClosing c = true) (zs : List Char) : s.toList ≠ t.toList ++ c :: zs := by
  intro h
  have hclose : ∀ depth cs, outside depth (c :: cs) = outside (depth - 1) cs := fun depth cs => by
    rw [outside, isOpening_eq_false_of_isClosing hc, hc]
    rfl
  -- read both ways from depth zero and from depth one: what is left is read at either depth
  have hsurface : ∀ w, outside 0 s.toList ++ outside 0 w = outside 0 t.toList ++ outside 1 w := by
    intro w
    have hdeep : outside 1 w = outside 0 (zs ++ w) :=
      calc outside 1 w = outside 1 (s.toList ++ w) := by simpa using (hs.reads 1 w).symm
        _ = outside 1 (t.toList ++ (c :: (zs ++ w))) := by rw [h, List.append_assoc]; rfl
        _ = outside 1 (c :: (zs ++ w)) := by simpa using ht.reads 1 (c :: (zs ++ w))
        _ = outside 0 (zs ++ w) := hclose 1 (zs ++ w)
    calc outside 0 s.toList ++ outside 0 w = outside 0 (s.toList ++ w) := (hs.reads 0 w).symm
      _ = outside 0 (t.toList ++ (c :: (zs ++ w))) := by rw [h, List.append_assoc]; rfl
      _ = outside 0 t.toList ++ outside 0 (c :: (zs ++ w)) := ht.reads 0 (c :: (zs ++ w))
      _ = outside 0 t.toList ++ outside 1 w := by rw [hclose, hdeep]
  have hnone : (outside 0 s.toList).length = (outside 0 t.toList).length := by
    simpa [outside] using congrArg List.length (hsurface [])
  have hone := congrArg List.length (hsurface ['+'])
  rw [List.length_append, List.length_append, hnone] at hone
  simp [outside, isOpening, isClosing] at hone

/-- **A bracket is closed in one place only.** -/
theorem Balanced.closing_inj (hs : Balanced s) (ht : Balanced t) {c d : Char}
    (hc : isClosing c = true) (hd : isClosing d = true) {rs ss : List Char}
    (h : s.toList ++ c :: rs = t.toList ++ d :: ss) : s = t ∧ rs = ss := by
  obtain ⟨hlist, hrest⟩ :=
    append_cons_inj (hs.ne_append_closing ht hd) (ht.ne_append_closing hs hc) h
  exact ⟨String.toList_inj.1 hlist, hrest⟩

/-- Behind a comma, a text of which no comma is seen does not go on. -/
theorem Uncut.ne_append_comma (hs : Uncut s) (ht : Uncut t) (zs : List Char) :
    s.toList ≠ t.toList ++ ',' :: zs := by
  intro h
  obtain ⟨out, hs, hcomma⟩ := hs
  obtain ⟨out', ht, -⟩ := ht
  have hout : out = out' ++ ',' :: outside 0 zs :=
    calc out = outside 0 s.toList := hs.eq.symm
      _ = outside 0 (t.toList ++ ',' :: zs) := by rw [h]
      _ = out' ++ outside 0 (',' :: zs) := ht 0 (',' :: zs)
      _ = out' ++ ',' :: outside 0 zs := rfl
  exact hcomma (by simp [hout])

/-- Texts with a comma after each are cut in one way only. -/
theorem eq_of_join_eq {xs ys : List String} (hx : ∀ x ∈ xs, Uncut x) (hy : ∀ y ∈ ys, Uncut y)
    (h : String.join (xs.map (· ++ ", ")) = String.join (ys.map (· ++ ", "))) : xs = ys := by
  have hne : ∀ (x : String) (xs : List String),
      "" ≠ String.join ((x :: xs).map (· ++ ", ")) := fun x xs hnil => by
    simpa using congrArg String.toList hnil
  induction xs generalizing ys with
  | nil =>
      cases ys with
      | nil => rfl
      | cons y ys => exact absurd h (hne y ys)
  | cons x xs ih =>
      cases ys with
      | nil => exact absurd h.symm (hne x xs)
      | cons y ys =>
          obtain ⟨hxuncut, hxs⟩ := List.forall_mem_cons.1 hx
          obtain ⟨hyuncut, hys⟩ := List.forall_mem_cons.1 hy
          have htexts := congrArg String.toList h
          simp only [List.map_cons, String.join_cons, String.append_assoc,
            String.toList_append] at htexts
          obtain ⟨hfirst, hrest⟩ := append_cons_inj (hxuncut.ne_append_comma hyuncut)
            (hyuncut.ne_append_comma hxuncut) htexts
          have hothers := String.toList_inj.1 (List.cons.inj hrest).2
          rw [String.toList_inj.1 hfirst, ih hxs hys hothers]

/-- **A list with commas is cut in one way only**, if no comma is seen of its parts. -/
theorem eq_of_joined_eq {xs ys : List String} (hx : ∀ x ∈ xs, Uncut x) (hy : ∀ y ∈ ys, Uncut y)
    (hxs : xs ≠ []) (hys : ys ≠ []) (h : joined ", " xs = joined ", " ys) : xs = ys := by
  have hcomma : ∀ {zs : List String}, zs ≠ [] →
      joined ", " zs ++ ", " = String.join (zs.map (· ++ ", ")) := by
    intro zs hzs
    have hlast := (joined_concat ", " zs "").symm.trans (joined_append_cons ", " zs "" [])
    rw [List.isEmpty_eq_false_iff.2 hzs] at hlast
    simpa using hlast
  refine eq_of_join_eq hx hy ?_
  rw [← hcomma hxs, ← hcomma hys, h]

/-- An empty list is written like the list of an empty text; all other texts are found again. -/
theorem mem_of_joined_eq {xs ys : List String} (hx : ∀ x ∈ xs, Uncut x) (hy : ∀ y ∈ ys, Uncut y)
    (h : joined ", " xs = joined ", " ys) {x : String} (hmem : x ∈ xs) (hne : x ≠ "") :
    x ∈ ys := by
  have hxs : xs ≠ [] := List.ne_nil_of_mem hmem
  cases ys with
  | nil =>
      have hempty : xs = [""] := eq_of_joined_eq hx
        (List.forall_mem_singleton.2 shows_empty.uncut) hxs (List.cons_ne_nil "" []) h
      rw [hempty] at hmem
      exact absurd (List.mem_singleton.1 hmem) hne
  | cons y ys => rwa [← eq_of_joined_eq hx hy hxs (List.cons_ne_nil y ys) h]

end SurfaceTree.Text
