/-
How types and lists of bounds start.

The first characters of a text tell much of what it is the text of.  No list of bounds starts like a
reference, a pointer or a qualified path.  A function type starts with a word, and so does a path;
but behind the first word of a function type there is a blank and another word, or the parenthesis
of its parameters, while behind the first word of a path there is nothing, or colons, or its
arguments.  The only path that goes on like a function type is the path to a function named `fn`.
Then its inputs are written like the parameters, and among inputs there are no names, no dots and no
missing types.

Main definitions:

* `Text.Avoids` — a text does not start with a character of some kind;
* `TypeSegment.renderArgs`, `TypePath.renderOthers` — what comes behind the first word of a path;
* `TypePath.Follows`, `TypePath.Behind` — how that goes on, if the path is the first of some bounds;
* `FnQualifiers.isBare`, `Param.isBare` — no word is written before `fn`, and a parameter is nothing
  but a type.

Main results:

* `Ty.avoids_render_bounds` — how no list of bounds starts;
* `TypePath.exists_behind` — **a path starts with the name of its first segment**;
* `LifetimeParam.eq_of_renderBinder_eq` — a binder in front of a function type is found again;
* `Param.isBare_of_joined_eq` — parameters that are written like types are types;
* `OperandTy.bare_of_function_eq_bounds` — **a function type that reads as a list of bounds starts
  with `fn` and has types for parameters**.
-/

import SurfaceTree.Proofs.Loose

set_option relaxedAutoImplicit false
set_option autoImplicit false

namespace SurfaceTree

open Text

/-! ### First characters -/

namespace Text

/-- A text does not start with a character of some kind. -/
def Avoids (P : Char → Prop) (s : String) : Prop := ∀ c ∈ s.toList.head?, ¬P c

instance (P : Char → Prop) [DecidablePred P] : DecidablePred (Avoids P) := fun s =>
  Option.decidableForallMem s.toList.head?

variable {P : Char → Prop} {s t : String}

theorem Avoids.append (hs : Avoids P s) (ht : Avoids P t) : Avoids P (s ++ t) := by
  intro c hc
  rw [String.toList_append, List.head?_append] at hc
  cases h : s.toList.head? with
  | none =>
      rw [h, Option.none_or] at hc
      exact ht c hc
  | some d =>
      rw [h, Option.some_or] at hc
      exact hs c (h ▸ hc)

theorem avoids_append (h : s ≠ "" ∧ Avoids P s) (t : String) : Avoids P (s ++ t) := by
  obtain ⟨hne, hs⟩ := h
  intro c hc
  have hlist : s.toList ≠ [] := fun hnil => hne (String.toList_eq_nil_iff.1 hnil)
  obtain ⟨d, cs, hd⟩ := List.exists_cons_of_ne_nil hlist
  rw [String.toList_append, hd] at hc
  exact hs c (hd ▸ hc)

theorem Avoids.separated (hs : Avoids P s) {texts : List String}
    (h : ∀ text ∈ texts, Avoids P text) : Avoids P (separated s texts) := by
  rw [separated_eq_joined]
  induction texts with
  | nil => intro c hc; cases hc
  | cons text texts ih =>
      have htext : Avoids P text := h text List.mem_cons_self
      cases texts with
      | nil => rwa [joined_singleton]
      | cons next texts =>
          rw [joined_cons_cons]
          exact (htext.append hs).append (ih fun t ht => h t (List.mem_cons_of_mem text ht))

/-- A text does not start with what it avoids. -/
theorem Avoids.ne_append (h : Avoids P s) {c : Char} (hc : P c) (ht : t.toList.head? = some c)
    (u : String) : s ≠ t ++ u := by
  rintro rfl
  obtain ⟨cs, hcs⟩ := List.head?_eq_some_iff.1 ht
  exact h c (by simp [hcs]) hc

/-- A fixed text is cut in two. -/
theorem append_of_eq_append {u : String} (h : u = s ++ t) (v : String) :
    u ++ v = s ++ (t ++ v) := by
  rw [h, String.append_assoc]

theorem append_ne_append {c d : Char} (hs : s.toList.head? = some c)
    (ht : t.toList.head? = some d) (hne : c ≠ d) (u v : String) : s ++ u ≠ t ++ v := by
  obtain ⟨cs, hcs⟩ := List.head?_eq_some_iff.1 hs
  obtain ⟨ds, hds⟩ := List.head?_eq_some_iff.1 ht
  intro h
  have htexts := congrArg String.toList h
  simp only [String.toList_append, hcs, hds, List.cons_append] at htexts
  exact hne (List.cons.inj htexts).1

theorem IsWord.avoids_append (h : IsWord s) (hP : ∀ c, P c → ¬Config.IsNamePart c) (t : String) :
    Avoids P (s ++ t) := by
  refine Text.avoids_append ⟨h.1, fun c hc hmark => ?_⟩ t
  exact hP c hmark (h.2 c (List.mem_of_mem_head? hc))

/-- **A word ends where something else begins.** -/
theorem IsWord.append_inj {w w' : String} (hw : IsWord w) (hw' : IsWord w')
    (hs : Avoids Config.IsNamePart s) (ht : Avoids Config.IsNamePart t)
    (h : w ++ s = w' ++ t) : w = w' ∧ s = t := by
  have htexts := congrArg String.toList h
  rw [String.toList_append, String.toList_append] at htexts
  obtain ⟨hword, hrest⟩ := Config.append_inj_of_boundary hw.2 hw'.2 hs ht htexts
  exact ⟨String.toList_inj.1 hword, String.toList_inj.1 hrest⟩

/-- A bracket in front of two texts is closed behind the same part of them. -/
theorem Balanced.append_inj (hs : Balanced s) (ht : Balanced t) {c d : String} {a b : Char}
    (ha : isClosing a = true) (hb : isClosing b = true) (hc : c.toList.head? = some a)
    (hd : d.toList.head? = some b) {u v : String} (h : s ++ (c ++ u) = t ++ (d ++ v)) :
    s = t ∧ c ++ u = d ++ v := by
  obtain ⟨cs, hcs⟩ := List.head?_eq_some_iff.1 hc
  obtain ⟨ds, hds⟩ := List.head?_eq_some_iff.1 hd
  have htexts := congrArg String.toList h
  simp only [String.toList_append, hcs, hds, List.cons_append] at htexts
  obtain ⟨rfl, -⟩ := hs.closing_inj ht ha hb htexts
  exact ⟨rfl, (String.append_right_inj s).1 h⟩

end Text

/-! ### Bounds -/

/-- The marks of a reference, a pointer and a qualified path. -/
def Text.IsOperandMark (c : Char) : Prop := c ∈ ['&', '*', '<']

instance : DecidablePred IsOperandMark := fun c =>
  inferInstanceAs (Decidable (c ∈ ['&', '*', '<']))

theorem Text.IsOperandMark.not_isNamePart {c : Char} (h : IsOperandMark c) :
    ¬Config.IsNamePart c := by
  simp only [IsOperandMark, List.mem_cons, List.not_mem_nil, or_false] at h
  rcases h with rfl | rfl | rfl <;> decide

/-- The name of a segment. -/
def TypeSegment.name : TypeSegment → Ident
  | .plain name _ | .generic name _ _ | .function name _ _ _ => name

/-- What is written of a segment behind its name. -/
def TypeSegment.renderArgs : TypeSegment → String
  | .plain _ _ => ""
  | .generic _ args _ => if args.isEmpty then "" else args.render
  | .function _ inputs output _ =>
      "(" ++ (separated ", " (Ty.renderAll inputs) ++ (")" ++ Ty.renderOutput output))

theorem TypeSegment.render_eq (s : TypeSegment) : s.render = s.name.text ++ s.renderArgs := by
  cases s with
  | plain name span => exact String.append_empty.symm
  | generic name args span => rfl
  | function name inputs output span =>
      rw [render, renderArgs, TypeSegment.name]
      simp only [String.append_assoc]

theorem TypeSegment.isWord_name {s : TypeSegment} (h : (Part.typeSegment s).Worded) :
    IsWord s.name.text := by
  have hown := (Part.worded_iff.1 h).1
  cases s <;> exact hown _ List.mem_cons_self

theorem TypePath.avoids_render {p : TypePath} (h : (Part.typePath p).Worded) :
    Avoids IsOperandMark p.render := by
  obtain ⟨segments, rooted, site⟩ := p
  have hroot : Avoids IsOperandMark (rootMark rooted) := by cases rooted <;> decide
  rw [TypePath.render, TypeSegment.renderAll_eq_map]
  refine hroot.append (Avoids.separated (by decide) (List.forall_mem_map.2 fun s hs => ?_))
  have hname := TypeSegment.isWord_name ((Part.worded_iff.1 h).2 _ (List.mem_map_of_mem hs))
  rw [TypeSegment.render_eq]
  exact hname.avoids_append (fun c hc => hc.not_isNamePart) _

theorem TypeBound.avoids_render {b : TypeBound} (h : (Part.typeBound b).Worded) :
    Avoids IsOperandMark b.render := by
  cases b with
  | lifetime l => exact avoids_append (by decide) _
  | trait b =>
      obtain ⟨path, inParens, maybe, binder, span⟩ := b
      have hbound := (Part.worded_iff.1 h).2 _ List.mem_cons_self
      have hpath : (Part.typePath path).Worded :=
        (Part.worded_iff.1 hbound).2 _ (List.mem_append_right _ List.mem_cons_self)
      have hmaybe : Avoids IsOperandMark (if maybe then "?" else "") := by cases maybe <;> decide
      have hbinder : Avoids IsOperandMark (LifetimeParam.renderBinder binder) := by
        cases binder with
        | nil => exact (by decide : Avoids IsOperandMark "")
        | cons l ls =>
            rw [LifetimeParam.renderBinder, String.append_assoc]
            · exact avoids_append (by decide) _
            · simp
      exact (hmaybe.append hbinder).append (TypePath.avoids_render hpath)

/-- **No list of bounds starts like a reference, a pointer or a qualified path.** -/
theorem Ty.avoids_render_bounds {u : Ty} (h : (Part.ty u).Worded)
    (hbounds : ∀ t, u ≠ .operand t) : Avoids IsOperandMark u.render := by
  have hall : ∀ bs : List TypeBound, (∀ b ∈ bs, (Part.typeBound b).Worded) →
      Avoids IsOperandMark (separated " + " (TypeBound.renderAll bs)) := by
    intro bs hbs
    rw [TypeBound.renderAll_eq_map]
    exact Avoids.separated (by decide)
      (List.forall_mem_map.2 fun b hb => TypeBound.avoids_render (hbs b hb))
  have hbelow := (Part.worded_iff.1 h).2
  cases u with
  | operand t => exact absurd rfl (hbounds t)
  | implTrait bounds site =>
      exact Avoids.append (by decide) (hall bounds fun b hb => hbelow _ (List.mem_map_of_mem hb))
  | traitObject bounds hasDyn site =>
      have hdyn : Avoids IsOperandMark (if hasDyn then "dyn " else "") := by
        cases hasDyn <;> decide
      exact hdyn.append (hall bounds fun b hb => hbelow _ (List.mem_map_of_mem hb))

/-! ### Behind the first word of a path -/

namespace TypePath

/-- The segments of a path behind the first. -/
def renderOthers (ss : List TypeSegment) : String :=
  String.join ((ss.map TypeSegment.render).map ("::" ++ ·))

theorem render_cons (s : TypeSegment) (ss : List TypeSegment) (site : Site) :
    render ⟨s :: ss, false, site⟩ = s.name.text ++ (s.renderArgs ++ renderOthers ss) := by
  rw [render, TypeSegment.renderAll_eq_map, separated_eq_joined, List.map_cons, joined_cons,
    TypeSegment.render_eq, String.append_assoc]
  exact String.empty_append

/-- What comes behind a segment of a path with another bound behind it: more segments, or the other
bound at once. -/
inductive Follows (rest : String) : String → Prop
  | bound : Follows rest (" + " ++ rest)
  | segments (others : String) : Follows rest ("::" ++ others)

/-- What comes behind the name of a segment: angle brackets, or the inputs of a function, or nothing
that belongs to the segment. -/
inductive Behind (rest : String) : String → Prop
  | nothing {others : String} : Follows rest others → Behind rest others
  | args {inner others : String} : Balanced inner → Follows rest others →
      Behind rest ("<" ++ (inner ++ (">" ++ others)))
  | inputs {ts : List Ty} {others : String} : (∀ t ∈ ts, (Part.ty t).Worded) →
      Behind rest ("(" ++ (joined ", " (ts.map Ty.render) ++ (")" ++ others)))

variable {rest behind : String}

theorem follows_renderOthers (ss : List TypeSegment) (rest : String) :
    Follows rest (renderOthers ss ++ (" + " ++ rest)) := by
  cases ss with
  | nil => exact String.empty_append.symm ▸ .bound
  | cons s ss =>
      rw [renderOthers, List.map_cons, List.map_cons, String.join_cons, String.append_assoc,
        String.append_assoc]
      exact .segments _

theorem behind_renderArgs {s : TypeSegment} (h : (Part.typeSegment s).Worded)
    (ss : List TypeSegment) (rest : String) :
    Behind rest (s.renderArgs ++ (renderOthers ss ++ (" + " ++ rest))) := by
  have hfollows := follows_renderOthers ss rest
  have hbelow := (Part.worded_iff.1 h).2
  cases s with
  | plain name span => exact String.empty_append.symm ▸ .nothing hfollows
  | generic name args span =>
      have hargs := hbelow (.args args) List.mem_cons_self
      have hinner := Part.balanced_args fun c hc => ((Part.worded_iff.1 hargs).2 c hc).nests
      cases hempty : args.isEmpty with
      | true =>
          rw [TypeSegment.renderArgs, if_pos hempty, String.empty_append]
          exact .nothing hfollows
      | false =>
          rw [TypeSegment.renderArgs, hempty, if_neg Bool.false_ne_true,
            GenericArgs.render_eq_joined]
          simp only [String.append_assoc]
          exact .args hinner hfollows
  | function name inputs output span =>
      rw [TypeSegment.renderArgs, separated_eq_joined, Ty.renderAll_eq_map]
      simp only [String.append_assoc]
      exact .inputs fun t ht => hbelow _ (List.mem_append_left _ (List.mem_map_of_mem ht))

theorem Follows.avoids_isNamePart (h : Follows rest behind) :
    Avoids Config.IsNamePart behind := by
  cases h with
  | bound => exact avoids_append (by decide) _
  | segments others => exact avoids_append (by decide) _

theorem Behind.avoids_isNamePart (h : Behind rest behind) : Avoids Config.IsNamePart behind := by
  cases h with
  | nothing hfollows => exact hfollows.avoids_isNamePart
  | args hinner hfollows => exact avoids_append (by decide) _
  | inputs hts => exact avoids_append (by decide) _

/-- **A path starts with the name of its first segment**, if it is the first bound of several and
starts with a word.  What is found behind the word is kept apart from what stands there, since cases
can be made on a variable only. -/
theorem exists_behind {p : TypePath} (h : (Part.typePath p).Worded) {w behind rest : String}
    (hw : IsWord w) (hbehind : Avoids Config.IsNamePart behind)
    (htext : w ++ behind = p.render ++ (" + " ++ rest)) :
    ∃ found, Behind rest found ∧ behind = found := by
  obtain ⟨segments, rooted, site⟩ := p
  have hstart : Avoids (¬Config.IsNamePart ·) (w ++ behind) := hw.avoids_append (fun _ h => h) _
  cases rooted with
  | true =>
      rw [render, String.append_assoc] at htext
      exact absurd htext (hstart.ne_append (c := ':') (by decide) rfl _)
  | false =>
      cases segments with
      | nil =>
          have hnil : render ⟨[], false, site⟩ = "" := rfl
          rw [hnil, String.empty_append] at htext
          exact absurd htext (hstart.ne_append (c := ' ') (by decide) rfl _)
      | cons s ss =>
          have hs := (Part.worded_iff.1 h).2 (.typeSegment s) List.mem_cons_self
          have hfound := behind_renderArgs hs ss rest
          rw [render_cons, String.append_assoc, String.append_assoc] at htext
          exact ⟨_, hfound, (hw.append_inj (TypeSegment.isWord_name hs) hbehind
            hfound.avoids_isNamePart htext).2⟩

end TypePath

/-! ### The first word of a function type -/

/-- No word is written before `fn`. -/
def FnQualifiers.isBare (q : FnQualifiers) : Bool :=
  !q.isConst && !q.isAsync && !q.isUnsafe && !q.isExtern

/-- A parameter is nothing but a type. -/
def Param.isBare (p : Param) : Bool := decide (p.kind = .unnamed) && p.ty.isSome

/-- Letters and signs with which no function type starts, nor what comes behind its first words. -/
def Text.IsForeign (c : Char) : Prop := c ∈ ['i', 'd', '\'', '?', '+']

instance : DecidablePred IsForeign := fun c =>
  inferInstanceAs (Decidable (c ∈ ['i', 'd', '\'', '?', '+']))

/-- Behind a segment of a path there is no blank, unless a plus sign comes next. -/
theorem TypePath.Follows.ne_blank_append {rest others x : String} (h : Follows rest others)
    (hx : Avoids IsForeign x) : " " ++ x ≠ others := by
  have hplus : " + " ++ rest = " " ++ ("+ " ++ rest) := append_of_eq_append (by rfl) rest
  intro htext
  cases h with
  | bound =>
      rw [hplus, String.append_right_inj] at htext
      exact hx.ne_append (c := '+') (by decide) rfl rest htext
  | segments others => exact append_ne_append rfl rfl (by decide) _ _ htext

namespace FnQualifiers

/-- The words in front of `fn`, and the calling convention in its quotes. -/
def words (q : FnQualifiers) : List String :=
  (if q.isConst then ["const"] else []) ++ (if q.isAsync then ["async"] else []) ++
    (if q.isUnsafe then ["unsafe"] else []) ++
    if q.isExtern then "extern" :: q.abi.toList.map fun abi => "\"" ++ abi ++ "\"" else []

theorem render_eq_join (q : FnQualifiers) : q.render = String.join (q.words.map (· ++ " ")) := by
  obtain ⟨isConst, isAsync, isUnsafe, isExtern, abi⟩ := q
  have hword : ∀ (b : Bool) (w : String),
      String.join ((if b then [w] else []).map (· ++ " ")) = if b then w ++ " " else "" := by
    intro b w
    cases b <;> simp
  rw [words, List.map_append, List.map_append, List.map_append, String.join_append,
    String.join_append, String.join_append, hword, hword, hword]
  refine (String.append_right_inj _).2 ?_
  cases isExtern with
  | false => rfl
  | true => cases abi <;> simp [String.append_assoc]

theorem words_eq_nil_iff {q : FnQualifiers} : q.words = [] ↔ q.isBare = true := by
  simp [words, isBare, and_assoc]

theorem render_of_isBare {q : FnQualifiers} (h : q.isBare = true) : q.render = "" := by
  rw [render_eq_join, words_eq_nil_iff.2 h]
  rfl

/-- The first of the words is one of four. -/
theorem mem_of_mem_head?_words {q : FnQualifiers} {w : String} (h : w ∈ q.words.head?) :
    w ∈ ["const", "async", "unsafe", "extern"] := by
  obtain ⟨isConst, isAsync, isUnsafe, isExtern, abi⟩ := q
  cases isConst <;> cases isAsync <;> cases isUnsafe <;> cases isExtern <;> simp_all [words]

theorem avoids_of_mem_words {q : FnQualifiers} {w : String} (h : w ∈ q.words) :
    w ≠ "" ∧ Avoids IsForeign w := by
  have hquoted : ∀ abi : String, "\"" ++ abi ++ "\"" ≠ "" ∧
      Avoids IsForeign ("\"" ++ abi ++ "\"") := fun abi => by
    rw [String.append_assoc]
    refine ⟨fun hnil => ?_, avoids_append (by decide) _⟩
    simpa using congrArg String.toList hnil
  have hwords : ∀ w ∈ ["const", "async", "unsafe", "extern"], w ≠ "" ∧ Avoids IsForeign w := by
    decide
  simp only [words, List.mem_append, List.mem_ite_nil_right, List.mem_cons, List.not_mem_nil,
    or_false, List.mem_map] at h
  rcases h with ((⟨-, rfl⟩ | ⟨-, rfl⟩) | ⟨-, rfl⟩) | ⟨-, rfl | ⟨abi, -, rfl⟩⟩
  · exact hwords _ (by simp)
  · exact hwords _ (by simp)
  · exact hwords _ (by simp)
  · exact hwords _ (by simp)
  · exact hquoted abi

/-- Words in front of a text: none of them starts with a foreign letter or sign. -/
theorem avoids_join_words {ws : List String} (h : ∀ w ∈ ws, w ≠ "" ∧ Avoids IsForeign w)
    {rest : String} (hrest : Avoids IsForeign rest) :
    Avoids IsForeign (String.join (ws.map (· ++ " ")) ++ rest) := by
  cases ws with
  | nil => exact String.empty_append.symm ▸ hrest
  | cons w ws =>
      rw [List.map_cons, String.join_cons, String.append_assoc, String.append_assoc]
      exact avoids_append (h w List.mem_cons_self) _

/-- Behind a word in front of `fn` there are a blank and another word. -/
theorem exists_first_word {q : FnQualifiers} (h : q.isBare = false) {rest : String}
    (hrest : Avoids IsForeign rest) :
    ∃ w behind, IsWord w ∧ w ≠ "for" ∧ Avoids IsForeign behind ∧
      q.render ++ rest = w ++ (" " ++ behind) := by
  have hfour : ∀ w ∈ ["const", "async", "unsafe", "extern"], IsWord w ∧ w ≠ "for" := by decide
  cases hwords : q.words with
  | nil => exact absurd (words_eq_nil_iff.1 hwords) (Bool.eq_false_iff.1 h)
  | cons w ws =>
      obtain ⟨hword, hfor⟩ := hfour w (mem_of_mem_head?_words (q := q) (by simp [hwords]))
      refine ⟨w, String.join (ws.map (· ++ " ")) ++ rest, hword, hfor, ?_, ?_⟩
      · refine avoids_join_words (fun v hv => avoids_of_mem_words (q := q) ?_) hrest
        exact hwords ▸ List.mem_cons_of_mem w hv
      · rw [render_eq_join, hwords, List.map_cons, String.join_cons]
        simp only [String.append_assoc]

/-- A function type starts with a word, which is not `for`, and with no foreign letter or sign. -/
theorem exists_word (q : FnQualifiers) (rest : String) :
    Avoids IsForeign (q.render ++ ("fn(" ++ rest)) ∧
      ∃ w behind, IsWord w ∧ w ≠ "for" ∧ Avoids Config.IsNamePart behind ∧
        q.render ++ ("fn(" ++ rest) = w ++ behind := by
  have hrest : Avoids IsForeign ("fn(" ++ rest) :=
    avoids_append (by decide) rest
  constructor
  · rw [render_eq_join]
    exact avoids_join_words (fun w hw => avoids_of_mem_words hw) hrest
  · cases hq : q.isBare with
    | true =>
        refine ⟨"fn", "(" ++ rest, by decide, by decide,
          avoids_append (by decide) rest, ?_⟩
        rw [render_of_isBare hq, String.empty_append]
        exact append_of_eq_append (by rfl) rest
    | false =>
        obtain ⟨w, behind, hw, hfor, -, htext⟩ := exists_first_word hq hrest
        exact ⟨w, " " ++ behind, hw, hfor,
          avoids_append (by decide) behind, htext⟩

end FnQualifiers

/-! ### A function type and a list of bounds -/

/-- A binder stands in angle brackets, if it is written at all. -/
theorem LifetimeParam.renderBinder_cases {ls : List LifetimeParam}
    (h : ∀ l ∈ ls, (Part.introduced l).Worded) :
    renderBinder ls = "" ∨
      ∃ inner, Balanced inner ∧ renderBinder ls = "for<" ++ (inner ++ "> ") := by
  cases ls with
  | nil => exact .inl rfl
  | cons l ls =>
      have hinner : Balanced (separated ", " ((l :: ls).map render)) :=
        balanced_comma.separated (List.forall_mem_map.2 fun l hl => (h l hl).nests)
      exact .inr ⟨_, hinner, String.append_assoc⟩

/-- **A binder in front of a function type is found again**: what is written like the type has the
same binder in front of it. -/
theorem LifetimeParam.eq_of_renderBinder_eq {ls ls' : List LifetimeParam}
    (hls : ∀ l ∈ ls, (Part.introduced l).Worded) (hls' : ∀ l ∈ ls', (Part.introduced l).Worded)
    {q : FnQualifiers} {p : TypePath} (hp : (Part.typePath p).Worded) {rest rest' : String}
    (h : renderBinder ls ++ (q.render ++ ("fn(" ++ rest)) =
      renderBinder ls' ++ (p.render ++ (" + " ++ rest'))) :
    q.render ++ ("fn(" ++ rest) = p.render ++ (" + " ++ rest') := by
  obtain ⟨hforeign, w, behind, hw, hfor, hbehind, htext⟩ := q.exists_word rest
  have hangle : ∀ x : String, Avoids Config.IsNamePart ("<" ++ x) := fun x =>
    avoids_append (by decide) x
  have hassoc : ∀ inner x : String, "for<" ++ (inner ++ "> ") ++ x =
      "for" ++ ("<" ++ (inner ++ ("> " ++ x))) := fun inner x => by
    rw [String.append_assoc, String.append_assoc]
    exact append_of_eq_append (by rfl) _
  rcases renderBinder_cases hls with hnil | ⟨inner, hinner, hcons⟩ <;>
    rcases renderBinder_cases hls' with hnil' | ⟨inner', hinner', hcons'⟩
  · rwa [hnil, hnil', String.empty_append, String.empty_append] at h
  · -- the first word of the function type would be `for`
    rw [hnil, hcons', String.empty_append, htext, hassoc] at h
    exact absurd (hw.append_inj (by decide) hbehind (hangle _) h).1 hfor
  · -- the first segment of the path would be called `for`, with the binder for its arguments
    rw [hcons, hnil', String.empty_append, hassoc] at h
    obtain ⟨found, hfound, hargs⟩ := TypePath.exists_behind hp (by decide) (hangle _) h
    exfalso
    cases hfound with
    | nothing hfollows =>
        cases hfollows <;> exact append_ne_append rfl rfl (by decide) _ _ hargs
    | inputs hts => exact append_ne_append rfl rfl (by decide) _ _ hargs
    | args hbalanced hfollows =>
        have hblank : "> " ++ (q.render ++ ("fn(" ++ rest)) =
            ">" ++ (" " ++ (q.render ++ ("fn(" ++ rest))) := append_of_eq_append (by rfl) _
        obtain ⟨-, hclosed⟩ := hinner.append_inj hbalanced (a := '>') (b := '>') rfl rfl rfl rfl
          ((String.append_right_inj _).1 hargs)
        rw [hblank, String.append_right_inj] at hclosed
        exact hfollows.ne_blank_append hforeign hclosed
  · rw [hcons, hcons', hassoc, hassoc, String.append_right_inj, String.append_right_inj] at h
    obtain ⟨-, hclosed⟩ := hinner.append_inj hinner' (a := '>') (b := '>') rfl rfl rfl rfl h
    exact (String.append_right_inj _).1 hclosed

/-- **A function type that reads as a list of bounds starts with `fn`**, and what stands between its
parentheses is a list of types. -/
theorem FnQualifiers.inputs_of_eq_bounds {q : FnQualifiers} {p : TypePath}
    (hp : (Part.typePath p).Worded) {args rest rest' : String} (hargs : Balanced args)
    (h : q.render ++ ("fn(" ++ (args ++ (")" ++ rest))) = p.render ++ (" + " ++ rest')) :
    q.isBare = true ∧ ∃ ts : List Ty, (∀ t ∈ ts, (Part.ty t).Worded) ∧
      args = joined ", " (ts.map Ty.render) := by
  cases hq : q.isBare with
  | false =>
      have hrest : Avoids IsForeign ("fn(" ++ (args ++ (")" ++ rest))) :=
        avoids_append (by decide) _
      obtain ⟨w, behind, hw, -, hforeign, htext⟩ := exists_first_word hq hrest
      obtain ⟨found, hfound, hbehind⟩ := TypePath.exists_behind hp hw
        (avoids_append (by decide) behind) (htext.symm.trans h)
      exfalso
      cases hfound with
      | nothing hfollows => exact hfollows.ne_blank_append hforeign hbehind
      | args hbalanced hfollows => exact append_ne_append rfl rfl (by decide) _ _ hbehind
      | inputs hts => exact append_ne_append rfl rfl (by decide) _ _ hbehind
  | true =>
      have hfn : "fn(" ++ (args ++ (")" ++ rest)) = "fn" ++ ("(" ++ (args ++ (")" ++ rest))) :=
        append_of_eq_append (by rfl) _
      rw [render_of_isBare hq, String.empty_append, hfn] at h
      obtain ⟨found, hfound, hbehind⟩ := TypePath.exists_behind hp (by decide)
        (avoids_append (by decide) _) h
      cases hfound with
      | nothing hfollows =>
          cases hfollows <;> exact absurd hbehind (append_ne_append rfl rfl (by decide) _ _)
      | args hbalanced hfollows => exact absurd hbehind (append_ne_append rfl rfl (by decide) _ _)
      | @inputs ts others hts =>
          have hinputs : Balanced (joined ", " (ts.map Ty.render)) := by
            rw [← separated_eq_joined]
            exact balanced_comma.separated
              (List.forall_mem_map.2 fun t ht => (hts t ht).nests.balanced)
          obtain ⟨rfl, -⟩ := hargs.append_inj hinputs (a := ')') (b := ')') rfl rfl rfl rfl
            ((String.append_right_inj _).1 hbehind)
          exact ⟨rfl, ts, hts, rfl⟩

/-- A function type starts with its binder or with its first word. -/
theorem OperandTy.avoids_render_function {P : Char → Prop} {binder : List LifetimeParam}
    {quals : FnQualifiers} {params : List Param} {variadic : Bool} {output : Option Ty}
    {site : Site} (h : (Part.operand (.function binder quals params variadic output site)).Worded)
    (hfor : Avoids P "for<") (hquals : ∀ rest, Avoids P (quals.render ++ ("fn(" ++ rest))) :
    Avoids P (function binder quals params variadic output site).render := by
  have hbinder : Avoids P (LifetimeParam.renderBinder binder) := by
    rcases LifetimeParam.renderBinder_cases fun l hl => (Part.worded_iff.1 h).2 (.introduced l)
      (List.mem_append_left _ (List.mem_append_left _ (List.mem_map_of_mem hl))) with
      hnil | ⟨inner, -, hcons⟩
    · rw [hnil]
      exact fun c hc => nomatch hc
    · exact hcons ▸ avoids_append ⟨by decide, hfor⟩ _
  rw [render_function_eq_joined]
  simp only [String.append_assoc]
  exact hbinder.append (hquals _)

/-! ### Parameters and inputs -/

/-- Colons are seen of a qualified path. -/
theorem QualifiedTypePath.render_ne_error {p : QualifiedTypePath}
    (h : (Part.qualifiedPath p).Worded) : p.render ≠ "<error>" := by
  obtain ⟨q, segments, site⟩ := p
  have hbelow := (Part.worded_iff.1 h).2
  have hq : Shows q.render false := (hbelow (.qself q) List.mem_cons_self).nests
  have hsegments := TypeSegment.shows_renderAll fun s hs =>
    (hbelow (.typeSegment s) (List.mem_cons_of_mem _ (List.mem_map_of_mem hs))).nests
  have hcolons : Reads "::" 0 0 [':', ':'] := IsPlain.reads (by decide)
  have hseen := ((hq.balanced.reads.append hcolons).append hsegments.balanced.reads).eq
  intro htext
  have hnothing : outside 0 (q.render ++ "::" ++
      separated "::" (TypeSegment.renderAll segments)).toList = [] :=
    (congrArg (fun s : String => outside 0 s.toList) htext).trans Part.reads_error.eq
  rw [hnothing] at hseen
  simp at hseen

/-- No type is written like a missing one: only a qualified path starts with an angle bracket. -/
theorem OperandTy.render_ne_error {t : OperandTy} (h : (Part.operand t).Worded) :
    t.render ≠ "<error>" := by
  have herror : "<error>" = "<" ++ "error>" := rfl
  have hmark : ∀ {s : String}, Avoids IsOperandMark s → s ≠ "<" ++ "error>" := fun hs =>
    hs.ne_append (c := '<') (by decide) rfl _
  have hbelow := (Part.worded_iff.1 h).2
  rw [herror]
  cases t with
  | path p => exact hmark (TypePath.avoids_render (hbelow _ List.mem_cons_self))
  | qualified p => exact QualifiedTypePath.render_ne_error (hbelow _ List.mem_cons_self)
  | objectOne bound hasDyn site =>
      have hbound := TypeBound.avoids_render (TypeBound.worded_trait (hbelow _ List.mem_cons_self))
      have hdyn : Avoids IsOperandMark (if hasDyn then "dyn " else "") := by
        cases hasDyn <;> decide
      exact hmark (hdyn.append hbound)
  | function binder quals params variadic output site =>
      refine hmark (avoids_render_function h (by decide) fun rest => ?_)
      obtain ⟨-, w, behind, hw, -, -, hword⟩ := quals.exists_word rest
      exact hword ▸ hw.avoids_append (fun c hc => hc.not_isNamePart) behind
  | never site => exact append_ne_append (s := "!") (t := "<") rfl rfl (by decide) "" _
  | inferred site => exact append_ne_append (s := "_") (t := "<") rfl rfl (by decide) "" _
  | implOne bound site => exact append_ne_append (s := "impl ") rfl rfl (by decide) _ _
  | reference l isMut referent site =>
      cases l <;>
      · rw [render]
        simp only [String.append_assoc]
        exact append_ne_append rfl rfl (by decide) _ _
  | paren _ _ | tuple _ _ | pointer _ _ _ | array _ _ _ | slice _ _ =>
      rw [render]
      simp only [String.append_assoc]
      exact append_ne_append rfl rfl (by decide) _ _

theorem Ty.render_ne_error {t : Ty} (h : (Part.ty t).Worded) : t.render ≠ "<error>" := by
  have hbounds : (∀ u, t ≠ .operand u) → t.render ≠ "<" ++ "error>" := fun hne =>
    (Ty.avoids_render_bounds h hne).ne_append (c := '<') (by decide) rfl _
  cases t with
  | operand t => exact OperandTy.render_ne_error ((Part.worded_iff.1 h).2 _ List.mem_cons_self)
  | implTrait bounds site => exact hbounds fun u hu => nomatch hu
  | traitObject bounds hasDyn site => exact hbounds fun u hu => nomatch hu

/-- What is seen of a name with a colon before a type has a colon too many for a type. -/
theorem Ty.render_ne_of_colon {t u : Ty} {name : String} (ht : (Part.ty t).Worded)
    (hu : (Part.ty u).Worded) (hname : IsWord name) : name ++ ": " ++ t.render ≠ u.render := by
  have hseen : ∀ {t : Ty}, (Part.ty t).Worded → Tidy (outside 0 t.render.toList) := fun h =>
    (Crosses.outside_eq h.nests).1
  have hcolon : Reads ": " 0 0 [':', ' '] := IsPlain.reads (by decide)
  have hall := ((hname.shows.balanced.reads.append hcolon).append
    (Crosses.balanced ht.nests).reads).eq
  intro htext
  have hodd := (hseen hu).2.2
  rw [← htext, hall, List.count_append, List.count_append] at hodd
  have hnameEven := hname.shows.outside_eq.1.2.2
  have htEven := (hseen ht).2.2
  have hone : [':', ' '].count ':' = 1 := rfl
  omega

/-- **A parameter with a name, a wildcard or no type is not written like a type.** -/
theorem Param.render_ne {p : Param} {t : Ty} (hp : (Part.param p).Worded)
    (hbare : p.isBare = false) (ht : (Part.ty t).Worded) : p.render ≠ t.render := by
  obtain ⟨name, kind, ty, span⟩ := p
  have hown := (Part.worded_iff.1 hp).1
  have hbelow := (Part.worded_iff.1 hp).2
  cases ty with
  | none => exact (Ty.render_ne_error ht).symm
  | some ty =>
      have hty : (Part.ty ty).Worded := hbelow _ List.mem_cons_self
      cases kind with
      | unnamed => cases hbare
      | identifier => exact Ty.render_ne_of_colon hty ht (hown _ List.mem_cons_self)
      | wildcard =>
          have hwildcard : IsWord "_" := by decide
          exact Ty.render_ne_of_colon hty ht hwildcard

/-- No dots are seen of a type. -/
theorem Ty.render_ne_dots {t : Ty} (h : (Part.ty t).Worded) : t.render ≠ "..." := by
  have hdots : outside 0 "...".toList = ['.', '.', '.'] := rfl
  intro htext
  have htidy : Tidy (outside 0 t.render.toList) := (Crosses.outside_eq h.nests).1
  rw [htext, hdots] at htidy
  exact htidy.2.1 List.mem_cons_self

/-- No comma is seen of a parameter, nor of the dots behind the last. -/
theorem Param.uncut_of_mem {params : List Param} {variadic : Bool}
    (h : ∀ p ∈ params, (Part.param p).Worded) :
    ∀ x ∈ params.map Param.render ++ (if variadic then ["..."] else []), Uncut x := by
  simp only [List.mem_append, List.mem_map, List.mem_ite_nil_right, List.mem_singleton]
  rintro x (⟨p, hp, rfl⟩ | ⟨-, rfl⟩)
  · exact (h p hp).nests
  · exact ⟨_, IsPlain.reads (by decide), by decide⟩

/-- **A list of parameters that is written like a list of types is one.** -/
theorem Param.isBare_of_joined_eq {params : List Param} {variadic : Bool} {ts : List Ty}
    (hparams : ∀ p ∈ params, (Part.param p).Worded) (hts : ∀ t ∈ ts, (Part.ty t).Worded)
    (h : joined ", " (params.map Param.render ++ if variadic then ["..."] else []) =
      joined ", " (ts.map Ty.render)) :
    variadic = false ∧ ∀ p ∈ params, p.isBare = true := by
  have hempty : (Part.ty (.traitObject [] false default)).Worded :=
    .of (by simp [Part.ownWords]) (by simp [Part.children])
  have hinputs : ∀ x ∈ ts.map Ty.render, Uncut x :=
    List.forall_mem_map.2 fun t ht => Crosses.uncut (hts t ht).nests
  -- whatever is not empty is found among the inputs again
  have hfound : ∀ x ∈ params.map Param.render ++ (if variadic then ["..."] else []), x ≠ "" →
      ∃ t, (Part.ty t).Worded ∧ t.render = x := fun x hx hne => by
    obtain ⟨t, ht, rfl⟩ := List.mem_map.1 (mem_of_joined_eq (uncut_of_mem hparams) hinputs h hx hne)
    exact ⟨t, hts t ht, rfl⟩
  constructor
  · cases variadic with
    | false => rfl
    | true =>
        obtain ⟨t, ht, htext⟩ := hfound "..." (by simp) (by decide)
        exact absurd htext (Ty.render_ne_dots ht)
  · intro p hp
    cases hbare : p.isBare with
    | true => rfl
    | false =>
        obtain ⟨t, ht, htext⟩ := hfound p.render (List.mem_append_left _ (List.mem_map_of_mem hp))
          (Param.render_ne (hparams p hp) hbare hempty)
        exact absurd htext.symm (Param.render_ne (hparams p hp) hbare ht)

/-! ### A function type and a list of bounds -/

/-- The first of several bounds, if the list does not start with a foreign letter or sign. -/
theorem Ty.exists_first_bound {u : Ty} (h : (Part.ty u).Worded) (hbounds : 2 ≤ u.bounds.length)
    (hforeign : Avoids IsForeign u.render) :
    ∃ (binder : List LifetimeParam) (p : TypePath) (rest : String),
      (∀ l ∈ binder, (Part.introduced l).Worded) ∧ (Part.typePath p).Worded ∧
        u.render = LifetimeParam.renderBinder binder ++ (p.render ++ (" + " ++ rest)) := by
  have hbelow := (Part.worded_iff.1 h).2
  cases u with
  | operand t => simp [bounds] at hbounds
  | implTrait bounds site =>
      exact absurd rfl (hforeign.ne_append (c := 'i') (t := "impl ") (by decide) rfl _)
  | traitObject bounds hasDyn site =>
      obtain ⟨b, c, bs, rfl⟩ : ∃ b c bs, bounds = b :: c :: bs := by
        rcases bounds with _ | ⟨b, _ | ⟨c, bs⟩⟩
        · simp [Ty.bounds] at hbounds
        · simp [Ty.bounds] at hbounds
        · exact ⟨b, c, bs, rfl⟩
      cases hasDyn with
      | true => exact absurd rfl (hforeign.ne_append (c := 'd') (t := "dyn ") (by decide) rfl _)
      | false =>
          have htext : (Ty.traitObject (b :: c :: bs) false site).render =
              b.render ++ (" + " ++ joined " + " ((c :: bs).map TypeBound.render)) := by
            rw [render_traitObject_eq_joined, List.map_cons, List.map_cons, joined_cons_cons,
              String.append_assoc]
            exact String.empty_append
          rw [htext] at hforeign ⊢
          cases b with
          | lifetime l =>
              exact absurd String.append_assoc
                (hforeign.ne_append (c := '\'') (t := "'") (by decide) rfl _)
          | trait b =>
              obtain ⟨path, inParens, maybe, binder, span⟩ := b
              have hbound := (Part.worded_iff.1 (hbelow _ List.mem_cons_self)).2 _
                List.mem_cons_self
              have hparts := (Part.worded_iff.1 hbound).2
              have hb : (TypeBound.trait ⟨path, inParens, maybe, binder, span⟩).render =
                  (if maybe then "?" else "") ++
                    (LifetimeParam.renderBinder binder ++ path.render) := String.append_assoc
              rw [hb, String.append_assoc, String.append_assoc] at hforeign ⊢
              cases maybe with
              | true =>
                  exact absurd rfl (hforeign.ne_append (c := '?') (t := "?") (by decide) rfl _)
              | false =>
                  exact ⟨binder, path, _,
                    fun l hl => hparts _ (List.mem_append_left _ (List.mem_map_of_mem hl)),
                    hparts _ (List.mem_append_right _ List.mem_cons_self), String.empty_append⟩

/-- **A function type that reads as a list of bounds is one of types only**: no word is written
before `fn`, and the parameters have no names and no dots behind them. -/
theorem OperandTy.bare_of_function_eq_bounds {binder : List LifetimeParam} {quals : FnQualifiers}
    {params : List Param} {variadic : Bool} {output : Option Ty} {site : Site} {u : Ty}
    (ht : (Part.operand (.function binder quals params variadic output site)).Worded)
    (hu : (Part.ty u).Worded) (hbounds : 2 ≤ u.bounds.length)
    (h : (function binder quals params variadic output site).render = u.render) :
    quals.isBare = true ∧ variadic = false ∧ ∀ p ∈ params, p.isBare = true := by
  have hbelow := (Part.worded_iff.1 ht).2
  have hforeign := avoids_render_function ht (P := IsForeign) (by decide) fun rest =>
    (quals.exists_word rest).1
  obtain ⟨binder', p, rest, hbinder', hp, htext⟩ :=
    Ty.exists_first_bound hu hbounds (h ▸ hforeign)
  have hbinder : ∀ l ∈ binder, (Part.introduced l).Worded := fun l hl =>
    hbelow _ (List.mem_append_left _ (List.mem_append_left _ (List.mem_map_of_mem hl)))
  have hparams : ∀ p ∈ params, (Part.param p).Worded := fun p hp =>
    hbelow _ (List.mem_append_left _ (List.mem_append_right _ (List.mem_map_of_mem hp)))
  rw [htext, render_function_eq_joined] at h
  simp only [String.append_assoc] at h
  have hargs : Balanced
      (joined ", " (params.map Param.render ++ if variadic then ["..."] else [])) := by
    rw [← separated_eq_joined]
    exact balanced_comma.separated fun x hx => (Param.uncut_of_mem hparams x hx).balanced
  obtain ⟨hquals, ts, hts, hinputs⟩ := FnQualifiers.inputs_of_eq_bounds hp hargs
    (LifetimeParam.eq_of_renderBinder_eq hbinder hbinder' hp h)
  exact ⟨hquals, Param.isBare_of_joined_eq hparams hts hinputs⟩

end SurfaceTree
