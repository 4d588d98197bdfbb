/-
Patterns without the slots of stripped fields.

A field that is stripped keeps its slot, so that the fields after it keep their positions.  Whoever
reads the pattern as text does not see the slot: not its attributes, not the comma that would stand
beside it, and not the blanks inside braces that hold nothing else.  So a pattern is written like
the one from which all slots have been removed.

Main definitions:

* `Elements.withoutSlots` — what stands between the braces, the slots removed;
* `Pattern.withoutSlots` — **the pattern with all slots removed**, at every depth.

Main results:

* `Pattern.render_mapChildren` — sub-patterns can be replaced by others that are written alike;
* `Pattern.withoutSlots_struct`, `Pattern.withoutSlots_of_elements?_eq_none` — the removal of the
  slots, from the outside in;
* `Pattern.isStripped_eq_false_of_occurs` — no slot is left between any braces;
* `Pattern.render_struct_of_live_eq_nil` — a struct pattern without live fields;
* `Pattern.slots_are_not_written` — **a pattern is written like the one without its slots**.
-/

import SurfaceTree.Pattern.Render
import SurfaceTree.Proofs.Live

set_option relaxedAutoImplicit false
set_option autoImplicit false

namespace SurfaceTree

/-! ### Sub-patterns that are written alike -/

theorem Field.render_mapPattern {g : Pattern → Pattern} {f : Field}
    (h : ∀ c, f.pattern? = some c → (g c).render = c.render) :
    (f.mapPattern g).render = f.render := by
  cases f with
  | shorthand x r m as s => rfl
  | indexed i p as s =>
      cases p with
      | none => rfl
      | some c => rw [mapPattern, Option.map_some, Field.render, Field.render, h c rfl]
  | named x p as s =>
      cases p with
      | none => rfl
      | some c => rw [mapPattern, Option.map_some, Field.render, Field.render, h c rfl]

theorem Field.not_isStripped_comp_mapPattern (g : Pattern → Pattern) :
    ((fun f => !f.isStripped) ∘ Field.mapPattern g) = fun f => !f.isStripped := by
  funext f
  rw [Function.comp_apply, Field.isStripped_mapPattern]

theorem Field.renderLive_map_mapPattern {g : Pattern → Pattern} {fs : List Field}
    (h : ∀ f ∈ fs, ∀ c, f.pattern? = some c → (g c).render = c.render) :
    Field.renderLive (fs.map (Field.mapPattern g)) = Field.renderLive fs := by
  rw [Field.renderLive_eq_map, Field.renderLive_eq_map, List.filter_map,
    Field.not_isStripped_comp_mapPattern, List.map_map]
  refine List.map_congr_left fun f hf => ?_
  exact Field.render_mapPattern (h f (List.mem_filter.1 hf).1)

theorem Items.render_mapPatterns {g : Pattern → Pattern} {items : Items} (style : ItemsStyle)
    (h : ∀ c ∈ items.patterns, (g c).render = c.render) :
    (items.mapPatterns g).render style = items.render style := by
  have hall : ∀ ps : List Pattern, (∀ c ∈ ps, (g c).render = c.render) →
      Pattern.renderAll (ps.map g) = Pattern.renderAll ps := by
    intro ps hps
    rw [Pattern.renderAll_eq_map, Pattern.renderAll_eq_map, List.map_map]
    exact List.map_congr_left hps
  cases items with
  | flat ps s => rw [mapPatterns, Items.render, Items.render, hall ps h, List.length_map]
  | ranged ls us s =>
      have hls := hall ls fun c hc => h c (List.mem_append_left us hc)
      have hus := hall us fun c hc => h c (List.mem_append_right ls hc)
      rw [mapPatterns, Items.render, Items.render, hls, hus]

namespace Elements

theorem render_mapPatterns {g : Pattern → Pattern} {e : Elements}
    (h : ∀ c ∈ e.patterns, (g c).render = c.render) : (e.mapPatterns g).render = e.render := by
  obtain ⟨fields, hasRest, restAttrs⟩ := e
  have hlive : Field.renderLive (fields.map (Field.mapPattern g)) = Field.renderLive fields :=
    Field.renderLive_map_mapPattern fun f hf c hc => h c (List.mem_filterMap.2 ⟨f, hf, hc⟩)
  rw [mapPatterns, Elements.render, Elements.render, hlive]

theorem isBare_mapPatterns (g : Pattern → Pattern) (e : Elements) :
    (e.mapPatterns g).isBare = e.isBare := by
  simp only [isBare, live, mapPatterns, List.filter_map, Field.not_isStripped_comp_mapPattern,
    List.isEmpty_map]

end Elements

/-- **Sub-patterns can be replaced by others that are written alike.** -/
theorem Pattern.render_mapChildren {g : Pattern → Pattern} {p : Pattern}
    (h : ∀ c ∈ p.children, (g c).render = c.render) : (p.mapChildren g).render = p.render := by
  have hitems : ∀ (style : ItemsStyle) (items : Option Items),
      (∀ c ∈ items.toList.flatMap Items.patterns, (g c).render = c.render) →
      Items.renderOption style (items.map (Items.mapPatterns g)) =
        Items.renderOption style items := by
    intro style items hs
    cases items with
    | none => rfl
    | some i => exact Items.render_mapPatterns style (by simpa using hs)
  cases p with
  | struct path e =>
      rw [mapChildren, Pattern.render, Pattern.render, Elements.isBare_mapPatterns,
        Elements.render_mapPatterns h]
  | ident x r m bind s =>
      cases bind with
      | none => rfl
      | some c =>
          have hc : (g c).render = c.render := h c (List.mem_singleton.2 rfl)
          rw [mapChildren, Option.map_some, Pattern.render, Pattern.render, renderBind, renderBind,
            hc]
  | reference c a m s =>
      rw [mapChildren, Pattern.render, Pattern.render, h c (List.mem_singleton.2 rfl)]
  | grouped c s =>
      rw [mapChildren, Pattern.render, Pattern.render, h c (List.mem_singleton.2 rfl)]
  | tupleStruct path items => rw [mapChildren, Pattern.render, Pattern.render, hitems _ items h]
  | tuple items s => rw [mapChildren, Pattern.render, Pattern.render, hitems _ items h]
  | slice ps s =>
      have hps : (ps.map g).map Pattern.render = ps.map Pattern.render := by
        rw [List.map_map]
        exact List.map_congr_left h
      rw [mapChildren, Pattern.render, Pattern.render, renderAll_eq_map, renderAll_eq_map, hps]
  | literal v m s => rfl
  | wildcard s => rfl
  | range l u e s => rfl

/-! ### Removal of the slots -/

/-- What stands between the braces, the slots removed. -/
def Elements.withoutSlots (e : Elements) : Elements := { e with fields := e.live }

/-- **The pattern with all slots removed**, at every depth. -/
def Pattern.withoutSlots (p : Pattern) : Pattern := p.mapElements Elements.withoutSlots

namespace Elements

theorem patterns_withoutSlots_subset (e : Elements) : e.withoutSlots.patterns ⊆ e.patterns := by
  intro c hc
  obtain ⟨f, hf, hfc⟩ := List.mem_filterMap.1 hc
  exact List.mem_filterMap.2 ⟨f, (List.mem_filter.1 hf).1, hfc⟩

/-- What is done further down neither makes a slot nor fills one. -/
theorem withoutSlots_mapPatterns (g : Pattern → Pattern) (e : Elements) :
    (e.mapPatterns g).withoutSlots = e.withoutSlots.mapPatterns g := by
  simp only [withoutSlots, live, mapPatterns, List.filter_map, Field.not_isStripped_comp_mapPattern]

/-- Between the braces no slot is written. -/
theorem render_withoutSlots (e : Elements) : e.withoutSlots.render = e.render := by
  obtain ⟨fields, hasRest, restAttrs⟩ := e
  have hlive : Field.renderLive (fields.filter fun f => !f.isStripped) =
      Field.renderLive fields := by
    rw [Field.renderLive_eq_map, Field.renderLive_eq_map, List.filter_filter]
    simp only [Bool.and_self]
  rw [withoutSlots, live, Elements.render, Elements.render, hlive]

theorem isBare_withoutSlots (e : Elements) : e.withoutSlots.isBare = e.isBare := by
  simp [withoutSlots, isBare, live]

end Elements

namespace Pattern

/-- Between its own braces a struct pattern keeps the live fields, and the slots are removed from
their patterns. -/
theorem withoutSlots_struct (path : ExprPath) (e : Elements) :
    (Pattern.struct path e).withoutSlots =
      .struct path (e.withoutSlots.mapPatterns withoutSlots) := by
  rw [withoutSlots, mapElements_eq, mapChildren, onElements, Elements.withoutSlots_mapPatterns]
  rfl

/-- In any other pattern there are only the slots further down. -/
theorem withoutSlots_of_elements?_eq_none {p : Pattern} (h : p.elements? = none) :
    p.withoutSlots = p.mapChildren withoutSlots := by
  rw [withoutSlots, mapElements_eq]
  cases p with
  | struct path e => simp [elements?] at h
  | _ => rfl

/-- No slot is left between any braces. -/
theorem isStripped_eq_false_of_occurs {p : Pattern} {path : ExprPath} {e : Elements}
    (h : Occurs (.struct path e) p.withoutSlots) {f : Field} (hf : f ∈ e.fields) :
    f.isStripped = false := by
  obtain ⟨e', rfl⟩ := exists_of_occurs_mapElements _ Elements.patterns_withoutSlots_subset h
  simpa using (List.mem_filter.1 hf).2

/-- The removal of the slots cannot be seen in the text. -/
theorem render_withoutSlots (p : Pattern) : p.withoutSlots.render = p.render := by
  induction p using Pattern.induction with
  | step p ih =>
      cases hp : p.elements? with
      | none => rw [withoutSlots_of_elements?_eq_none hp, render_mapChildren ih]
      | some e =>
          obtain ⟨path, rfl⟩ := elements?_eq_some hp
          have hbelow : ∀ c ∈ (Pattern.struct path e.withoutSlots).children,
              c.withoutSlots.render = c.render := fun c hc =>
            ih c (e.patterns_withoutSlots_subset hc)
          calc (Pattern.struct path e).withoutSlots.render
              = ((Pattern.struct path e.withoutSlots).mapChildren withoutSlots).render := by
                rw [withoutSlots_struct, mapChildren]
            _ = (Pattern.struct path e.withoutSlots).render := render_mapChildren hbelow
            _ = (Pattern.struct path e).render := by
                rw [Pattern.render, Pattern.render, Elements.isBare_withoutSlots,
                  Elements.render_withoutSlots]

/-- Where no live field is left, the rest marker stands alone between the braces, or nothing. -/
theorem render_struct_of_live_eq_nil {path : ExprPath} {e : Elements} (h : e.live = []) :
    (Pattern.struct path e).render =
      path.render ++
        if e.hasRest then " \x7b " ++ Attribute.renderOuter e.restAttrs ++ ".. \x7d"
        else " \x7b\x7d" := by
  obtain ⟨fields, hasRest, restAttrs⟩ := e
  have hlive : Field.renderLive fields = [] := by
    rw [Field.renderLive_eq_map, List.map_eq_nil_iff]
    exact h
  cases hasRest with
  | false => simp [Pattern.render, Elements.isBare, h]
  | true =>
      simp [Pattern.render, Elements.render_eq_intercalate, Elements.isBare, hlive,
        String.append_assoc]

/-- **A pattern is written like the one without its slots**, in which no slot is left; and where all
fields are slots, the rest marker stands alone between the braces, or nothing. -/
theorem slots_are_not_written (p : Pattern) :
    p.withoutSlots.render = p.render ∧
      (∀ path e, Occurs (.struct path e) p.withoutSlots →
        ∀ f ∈ e.fields, f.isStripped = false) ∧
      ∀ path e, p = .struct path e → (∀ f ∈ e.fields, f.isStripped = true) →
        p.render = path.render ++
          if e.hasRest then " \x7b " ++ Attribute.renderOuter e.restAttrs ++ ".. \x7d"
          else " \x7b\x7d" := by
  refine ⟨p.render_withoutSlots, fun path e ho f hf => isStripped_eq_false_of_occurs ho hf, ?_⟩
  rintro path e rfl h
  refine render_struct_of_live_eq_nil (List.filter_eq_nil_iff.2 fun f hf => ?_)
  rw [h f hf]
  exact Bool.false_ne_true

/-- A struct pattern in which slots and live fields take turns, and one further down in which there
are slots only. -/
def gapped : Pattern :=
  .struct (.ofIdent ⟨"S"⟩ .dummy)
    ⟨[.indexed 0 none [⟨.word (.single "inline"), .dummy⟩] .dummy,
      .named ⟨"x"⟩ (some (.struct (.ofIdent ⟨"T"⟩ .dummy)
        ⟨[.shorthand .empty true false [] .dummy, .named ⟨"u"⟩ none [] .dummy], false, []⟩))
        [] .dummy,
      .named ⟨"y"⟩ none [] .dummy,
      .shorthand ⟨"z"⟩ false true [] .dummy], true, []⟩

/-- The commas stand between the live fields and before the rest marker only. -/
theorem slots_are_not_written_gapped :
    gapped.withoutSlots.render = gapped.render ∧
      gapped.render = "S \x7b x: T \x7b\x7d, mut z, .. \x7d" ∧
      ∀ path e, Occurs (.struct path e) gapped.withoutSlots →
        ∀ f ∈ e.fields, f.isStripped = false := by
  obtain ⟨hrender, hslots, -⟩ := slots_are_not_written gapped
  exact ⟨hrender, by decide, hslots⟩

end Pattern

end SurfaceTree
