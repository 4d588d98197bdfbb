/-
Configuration flags: the text in which a single option is switched on from outside.

A flag is a name, or a name and a quoted value with an equals sign between them.  Blanks may stand
at both ends and around the equals sign.

Main definitions:

* `Config.isName` — the names that options may have;
* `Config.splitEquals?`, `Config.unquote?` — the two cuts that reading makes;
* `Config.Flag`, `Config.Flag.read` — a flag, and its reading.
-/

import SurfaceTree.Config.Error
import SurfaceTree.Text.Blank

set_option relaxedAutoImplicit false
set_option autoImplicit false

namespace SurfaceTree.Config

/-- A name starts with an ASCII letter or an underscore, and goes on with these and digits. -/
def isName : List Char → Bool
  | [] => false
  | c :: cs => (c.isAlpha || c == '_') && cs.all fun d => d.isAlphanum || d == '_'

/-- What stands before and after the first equals sign. -/
def splitEquals? (cs : List Char) : Option (List Char × List Char) :=
  match cs.dropWhile (· != '=') with
  | [] => none
  | _ :: rest => some (cs.takeWhile (· != '='), rest)

/-- What stands between a quote that comes first and another that comes last. -/
def unquote? : List Char → Option (List Char)
  | '"' :: rest => if rest.getLast? = some '"' then some rest.dropLast else none
  | _ => none

/-- A single option. -/
inductive Flag where
  /-- A name that is set. -/
  | atom (name : String)
  /-- A value that a name has, perhaps beside others. -/
  | pair (key value : String)
deriving DecidableEq

/-- Reads a flag.  The text is looked at from left to right: first whether there is any, then
whether the name is one, then whether the value is quoted. -/
def Flag.read (text : String) : Except ConfigError Flag :=
  match Text.trimChars text.toList with
  | [] => .error .emptyFlag
  | cs =>
      match splitEquals? cs with
      | none =>
          if isName cs then .ok (.atom (String.ofList cs))
          else .error (.invalidName (String.ofList cs))
      | some (before, after) =>
          let key := Text.trimChars before
          let value := Text.trimChars after
          if isName key then
            match unquote? value with
            | some value => .ok (.pair (String.ofList key) (String.ofList value))
            | none => .error (.unquotedValue (String.ofList key) (String.ofList value))
          else .error (.invalidName (String.ofList key))

/-! ### The two cuts -/

/-- Cutting at the first equals sign loses nothing but that sign. -/
theorem splitEquals?_eq_some_iff {cs before after : List Char} :
    splitEquals? cs = some (before, after) ↔ cs = before ++ '=' :: after ∧ '=' ∉ before := by
  unfold splitEquals?
  constructor
  · intro h
    split at h
    · cases h
    · rename_i c rest hd
      simp only [Option.some.injEq, Prod.mk.injEq] at h
      obtain ⟨rfl, rfl⟩ := h
      have hc : (c != '=') = false := by
        have := List.head?_dropWhile_not (· != '=') cs
        simpa [hd] using this
      refine ⟨?_, fun hm => by simpa using List.all_eq_true.1 List.all_takeWhile _ hm⟩
      have := List.takeWhile_append_dropWhile (p := (· != '=')) (l := cs)
      rw [hd] at this
      simpa [show c = '=' by simpa using hc] using this.symm
  · rintro ⟨rfl, h⟩
    have hb : ∀ c ∈ before, (c != '=') = true := fun c hc => by
      simp only [bne_iff_ne, ne_eq]
      rintro rfl
      exact h hc
    simp [List.dropWhile_append_of_pos hb, List.takeWhile_append_of_pos hb]

/-- A text without an equals sign is not cut. -/
theorem splitEquals?_eq_none_iff {cs : List Char} : splitEquals? cs = none ↔ '=' ∉ cs := by
  constructor
  · intro h hm
    obtain ⟨before, after, hcs, hn⟩ := List.eq_append_cons_of_mem hm
    rw [splitEquals?_eq_some_iff.2 ⟨hcs, hn⟩] at h
    cases h
  · intro h
    cases hs : splitEquals? cs with
    | none => rfl
    | some halves =>
        obtain ⟨hcs, -⟩ := splitEquals?_eq_some_iff.1 hs
        rw [hcs] at h
        simp at h

/-- The quotes are the first and the last character, and they are two. -/
theorem unquote?_eq_some_iff {cs value : List Char} :
    unquote? cs = some value ↔ cs = '"' :: (value ++ ['"']) := by
  constructor
  · intro h
    unfold unquote? at h
    split at h
    · split at h
      · rename_i rest hl
        obtain ⟨init, rfl⟩ := List.getLast?_eq_some_iff.1 hl
        simp_all
      · cases h
    · cases h
  · rintro rfl
    simp [unquote?]

end SurfaceTree.Config
