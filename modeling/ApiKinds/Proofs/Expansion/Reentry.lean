/-
  A component expanded by a reference to it, beside its schema expanded in place.

  * `Document.ComesTo`: what is expanded of a schema leads to a reference to a component.
  * `Apart`: the expansion in place enters the component, and the node there is not the one
    that the stub of the component would give.
  * `apart_iff`: two expansions that differ in being inside the component or not have
    different results just if they come apart.
  * `dereference_agrees_iff`: so a reference to a component and its schema in place have the same
    shape, up to the component's name, unless they come apart. They do not if the component
    does not refer to itself; if it does, they always do where its schema is written out.

  Only a component that is entered by a reference counts as being expanded, so in place it is
  expanded once more below its root.
-/
import ApiKinds.Proofs.Api.Resolution
import ApiKinds.Proofs.Expansion.Constraints
import ApiKinds.Proofs.Expansion.Nesting
import ApiKinds.Proofs.Expansion.Stub

namespace ApiKinds

open Api

/-! ## The way to a component -/

/-- What is expanded of a schema leads to a reference to a component, through no component that
    is avoided. Properties that stand for references are not expanded, nor is what a schema has
    beside a member that it gives way to. -/
inductive Api.Document.ComesTo (doc : Document) (component : String) (avoided : List String) :
    RefOr Schema → Prop
  | met {reference target} : doc.schema? (.ref reference) = some target →
      lastSegment reference = component → ComesTo doc component avoided (.ref reference)
  | through {reference target} : doc.schema? (.ref reference) = some target →
      lastSegment reference ∉ avoided → ComesTo doc component avoided (.inline target) →
      ComesTo doc component avoided (.ref reference)
  | member {schema member} : schema.wrapped? = some member →
      ComesTo doc component avoided member → ComesTo doc component avoided (.inline schema)
  | property {schema key part} : ¬ schema.GivesWay doc false → (key, part) ∈ schema.properties →
      linkOf? part = none → ComesTo doc component avoided part →
      ComesTo doc component avoided (.inline schema)
  | items {schema part} : ¬ schema.GivesWay doc false → schema.items = some part →
      ComesTo doc component avoided part → ComesTo doc component avoided (.inline schema)

/-- A schema has its parts in place, where it is read or in a member that it wraps. -/
inductive Api.Schema.WrittenOut (doc : Document) : Schema → Prop
  | here {schema} : ¬ schema.GivesWay doc false → WrittenOut doc schema
  | member {schema part} : schema.wrapped? = some (.inline part) → WrittenOut doc part →
      WrittenOut doc schema

section
variable {doc : Document} {component : String} {avoided : List String} {schema : RefOr Schema}

/-- What leads to a component stands for a schema. -/
theorem Api.Document.ComesTo.schema?_isSome (h : doc.ComesTo component avoided schema) :
    (doc.schema? schema).isSome := by
  cases h with
  | met htarget => rw [htarget]; rfl
  | through htarget => rw [htarget]; rfl
  | member | property | items => rfl

/-- A way that passes a component more than once has a rest that passes it no more. -/
theorem Api.Document.ComesTo.avoid (h : doc.ComesTo component avoided schema) (passed : String) :
    doc.ComesTo component (passed :: avoided) schema ∨
      ∃ reference target, doc.schema? (.ref reference) = some target ∧
        lastSegment reference = passed ∧
        doc.ComesTo component (passed :: avoided) (.inline target) := by
  induction h with
  | met htarget hcomponent => exact .inl (.met htarget hcomponent)
  | @through reference target htarget havoided _ ih =>
    rcases ih with hway | hrest
    · by_cases hpassed : lastSegment reference = passed
      · exact .inr ⟨reference, target, htarget, hpassed, hway⟩
      · have hnew : lastSegment reference ∉ passed :: avoided := by simp [hpassed, havoided]
        exact .inl (.through htarget hnew hway)
    · exact .inr hrest
  | member hwrapped _ ih => exact ih.imp_left (.member hwrapped)
  | property hstays hmem hlink _ ih => exact ih.imp_left (.property hstays hmem hlink)
  | items hstays hpart _ ih => exact ih.imp_left (.items hstays hpart)

/-- So from inside a component the way need not pass the component again. -/
theorem Api.Document.ComesTo.avoid_self {reference : String} {target : Schema}
    (h : doc.ComesTo component avoided (.inline target))
    (htarget : doc.schema? (.ref reference) = some target) :
    doc.ComesTo component (lastSegment reference :: avoided) (.inline target) := by
  obtain hway | ⟨other, target', htarget', hspelled, hway⟩ := h.avoid (lastSegment reference)
  · exact hway
  · cases resolve?_unique .schemas htarget' htarget hspelled
    exact hway

end

/-! ## Runs of wrappers -/

section
variable {doc : Document} {inside : List String} {name : String} {schema : RefOr Schema}

/-- What stands for a schema has a shape. -/
theorem Expansion.ne_none_of_isSome {result : Option Shape}
    (run : Expansion doc inside name schema result) (h : (doc.schema? schema).isSome) :
    result ≠ none := by
  rintro rfl
  cases run with
  | dangling hnone =>
    rw [hnone] at h
    cases h

/-- A schema stays where no member that it wraps has a shape. -/
theorem not_givesWay_of_run {schema : Schema}
    (h : ∀ member, schema.wrapped? = some member → Expansion doc inside name member none) :
    ¬ schema.GivesWay doc false := by
  rintro ⟨member, hwrapped, hsome | ⟨⟨⟩, -⟩⟩
  exact (h member hwrapped).ne_none_of_isSome hsome rfl

/-- A schema with its parts in place that leads to some component has parts in its shape. -/
theorem not_isBare_of_comesTo {component : String} {avoided : List String} {target : Schema}
    {shape : Shape} (hout : target.WrittenOut doc)
    (h : doc.ComesTo component avoided (.inline target))
    (run : Expansion doc inside name (.inline target) (some shape)) : ¬ shape.IsBare := by
  induction hout generalizing shape with
  | @here schema hstays =>
    cases run with
    | wrapped hwrapped run => exact absurd (givesWay_of_run hwrapped run) hstays
    | plain node items _ _ _ _ hitems =>
      rintro ⟨hproperties, hbare⟩
      cases h with
      | member hwrapped hway =>
        exact hstays ⟨_, hwrapped, .inl hway.schema?_isSome⟩
      | property _ hmem =>
        rw [List.map_eq_nil_iff] at hproperties
        rw [hproperties] at hmem
        cases hmem
      | items _ hpart hway =>
        exact (hitems _ hpart).ne_none_of_isSome hway.schema?_isSome hbare
  | @member schema part hpart _ ih =>
    have hgives : schema.GivesWay doc false := ⟨_, hpart, .inl rfl⟩
    cases h with
    | property hstays => exact absurd hgives hstays
    | items hstays => exact absurd hgives hstays
    | member hwrapped hway =>
      cases hwrapped.symm.trans hpart
      cases run with
      | plain _ _ hnone => exact absurd hgives (not_givesWay_of_run hnone)
      | wrapped hwrapped' run =>
        cases hwrapped'.symm.trans hpart
        exact fun hbare => ih hway run hbare

end

/-! ## Two runs -/

/-- What the wrappers and references above a node make of it leaves its parts as they are. -/
def KeepsParts (view : Shape → Shape) : Prop :=
  ∀ shape, (view shape).properties = shape.properties ∧ (view shape).items = shape.items

namespace KeepsParts

theorem id : KeepsParts fun shape => shape :=
  fun _ => ⟨rfl, rfl⟩

theorem named {view : Shape → Shape} (h : KeepsParts view) (component : String) :
    KeepsParts fun shape => view { shape with component := some component } :=
  fun shape => h { shape with component := some component }

theorem under {view : Shape → Shape} (h : KeepsParts view) (wrapper : Facets) :
    KeepsParts fun shape => view (shape.under wrapper) :=
  fun shape => h (shape.under wrapper)

end KeepsParts

/-- The expansion of a schema, inside some components, comes to a reference to another one, and
    what it finds there is not what a stub of that component would be. `view` is what is made of
    the node of the schema further up, below the next property or items. -/
inductive Apart (doc : Document) (component : String) :
    List String → String → (Shape → Shape) → RefOr Schema → Prop
  | met {inside name view reference target shape} :
      doc.schema? (.ref reference) = some target → lastSegment reference = component →
      Expansion doc (component :: inside) name (.inline target) (some shape) →
      view { shape with component := some component } ≠ view (stub name component target) →
      Apart doc component inside name view (.ref reference)
  | through {inside name view reference target} :
      doc.schema? (.ref reference) = some target → lastSegment reference ≠ component →
      lastSegment reference ∉ inside →
      Apart doc component (lastSegment reference :: inside) name
        (fun shape => view { shape with component := some (lastSegment reference) })
        (.inline target) →
      Apart doc component inside name view (.ref reference)
  | member {inside name view schema member} : schema.wrapped? = some member →
      Apart doc component inside name (fun shape => view (shape.under schema.toFacets)) member →
      Apart doc component inside name view (.inline schema)
  | property {inside name view schema key part} : ¬ schema.GivesWay doc false →
      (key, part) ∈ schema.properties → linkOf? part = none →
      Apart doc component inside key (fun shape => shape) part →
      Apart doc component inside name view (.inline schema)
  | items {inside name view schema part} : ¬ schema.GivesWay doc false →
      schema.items = some part → Apart doc component inside "Items" (fun shape => shape) part →
      Apart doc component inside name view (.inline schema)

section
variable {doc : Document} {component : String} {inside : List String} {name : String}
  {schema : RefOr Schema} {view : Shape → Shape}

/-- Where runs come apart, the schema leads to the component. -/
theorem Apart.comesTo (h : Apart doc component inside name view schema) :
    doc.ComesTo component [] schema := by
  induction h with
  | met htarget hcomponent => exact .met htarget hcomponent
  | through htarget _ _ _ ih => exact .through htarget List.not_mem_nil ih
  | member hwrapped _ ih => exact .member hwrapped ih
  | property hstays hmem hlink _ ih => exact .property hstays hmem hlink ih
  | items hstays hpart _ ih => exact .items hstays hpart ih

/-! ### One step -/

theorem not_apart_of_dangling {reference : String} (h : doc.schema? (.ref reference) = none) :
    ¬ Apart doc component inside name view (.ref reference) := by
  intro hapart
  cases hapart with
  | met htarget => cases h.symm.trans htarget
  | through htarget => cases h.symm.trans htarget

theorem not_apart_of_cut {reference : String} (houtside : component ∉ inside)
    (hinside : lastSegment reference ∈ inside) :
    ¬ Apart doc component inside name view (.ref reference) := by
  intro hapart
  cases hapart with
  | met _ hcomponent => exact houtside (hcomponent ▸ hinside)
  | through _ _ hnew => exact hnew hinside

/-- At a reference to the component its shape stands against its stub. -/
theorem apart_met_iff {reference : String} {target : Schema} {shape : Shape}
    (htarget : doc.schema? (.ref reference) = some target)
    (run : Expansion doc (lastSegment reference :: inside) name (.inline target) (some shape)) :
    Apart doc (lastSegment reference) inside name view (.ref reference) ↔
      view { shape with component := some (lastSegment reference) } ≠
        view (stub name (lastSegment reference) target) := by
  constructor
  · intro hapart
    cases hapart with
    | through _ hother => exact absurd rfl hother
    | met htarget' _ run' hne =>
      cases htarget'.symm.trans htarget
      cases run'.unique run
      exact hne
  · exact fun hne => .met htarget rfl run hne

theorem apart_through_iff {reference : String} {target : Schema}
    (htarget : doc.schema? (.ref reference) = some target)
    (hother : lastSegment reference ≠ component) (hnew : lastSegment reference ∉ inside) :
    Apart doc component inside name view (.ref reference) ↔
      Apart doc component (lastSegment reference :: inside) name
        (fun shape => view { shape with component := some (lastSegment reference) })
        (.inline target) := by
  constructor
  · intro hapart
    cases hapart with
    | met _ hcomponent => exact absurd hcomponent hother
    | through htarget' _ _ hapart =>
      cases htarget'.symm.trans htarget
      exact hapart
  · exact fun hapart => .through htarget hother hnew hapart

theorem apart_wrapped_iff {schema : Schema} {member : RefOr Schema}
    (hwrapped : schema.wrapped? = some member) (hgives : schema.GivesWay doc false) :
    Apart doc component inside name view (.inline schema) ↔
      Apart doc component inside name (fun shape => view (shape.under schema.toFacets)) member := by
  constructor
  · intro hapart
    cases hapart with
    | property hstays => exact absurd hgives hstays
    | items hstays => exact absurd hgives hstays
    | member hwrapped' hapart =>
      cases hwrapped'.symm.trans hwrapped
      exact hapart
  · exact fun hapart => .member hwrapped hapart

/-- A schema that stays comes apart in its parts, each of which is looked at by itself. -/
theorem apart_plain_iff {schema : Schema} (hstays : ¬ schema.GivesWay doc false) :
    Apart doc component inside name view (.inline schema) ↔
      (∃ property ∈ schema.properties, linkOf? property.2 = none ∧
        Apart doc component inside property.1 (fun shape => shape) property.2) ∨
      ∃ part, schema.items = some part ∧
        Apart doc component inside "Items" (fun shape => shape) part := by
  constructor
  · intro hapart
    cases hapart with
    | member hwrapped hapart =>
      exact absurd ⟨_, hwrapped, .inl hapart.comesTo.schema?_isSome⟩ hstays
    | property _ hmem hlink hapart => exact .inl ⟨_, hmem, hlink, hapart⟩
    | items _ hpart hapart => exact .inr ⟨_, hpart, hapart⟩
  · rintro (⟨property, hmem, hlink, hapart⟩ | ⟨part, hpart, hapart⟩)
    · exact .property hstays hmem hlink hapart
    · exact .items hstays hpart hapart

/-- Two nodes with parts of the same schemas differ just if one of these parts does. -/
theorem plain_ne_iff (hview : KeepsParts view) {t : Trait}
    {properties : List (String × RefOr Schema)} {node node' : String × RefOr Schema → Shape}
    {items items' : Option Shape} :
    view ⟨t, properties.map fun property => (property.1, node property), items⟩ ≠
        view ⟨t, properties.map fun property => (property.1, node' property), items'⟩ ↔
      (∃ property ∈ properties, node property ≠ node' property) ∨ items ≠ items' := by
  have hparts : view ⟨t, properties.map fun property => (property.1, node property), items⟩ =
        view ⟨t, properties.map fun property => (property.1, node' property), items'⟩ ↔
      (∀ property ∈ properties, node property = node' property) ∧ items = items' := by
    constructor
    · intro heq
      obtain ⟨hproperties, hitems⟩ :=
        hview ⟨t, properties.map fun property => (property.1, node property), items⟩
      obtain ⟨hproperties', hitems'⟩ :=
        hview ⟨t, properties.map fun property => (property.1, node' property), items'⟩
      rw [heq] at hproperties hitems
      refine ⟨fun property hmem => ?_, hitems.symm.trans hitems'⟩
      have hmaps := List.map_inj_left.1 (hproperties.symm.trans hproperties') property hmem
      exact (Prod.mk.inj hmaps).2
    · rintro ⟨hnodes, rfl⟩
      have hmaps : (properties.map fun property => (property.1, node property)) =
          properties.map fun property => (property.1, node' property) :=
        List.map_congr_left fun property hmem => by rw [hnodes property hmem]
      rw [hmaps]
  rw [ne_eq, hparts, not_and_or]
  simp only [not_forall, exists_prop, ne_eq]

/-! ### Whole runs -/

/-- **Two runs of a schema, outside and inside of a component and otherwise alike, differ just
    if they come apart.** -/
theorem Expansion.apart_iff {result : Option Shape}
    (run : Expansion doc inside name schema result) (houtside : component ∉ inside)
    (hview : KeepsParts view) {within : List String}
    (hwithin : ∀ other, other ∈ within ↔ other = component ∨ other ∈ inside)
    {result' : Option Shape} (run' : Expansion doc within name schema result') :
    result.map view ≠ result'.map view ↔ Apart doc component inside name view schema := by
  -- On the run outside: the one inside takes the same steps, but does not enter the component.
  induction run generalizing view within result' with
  | @dangling inside name reference hnone =>
    cases run' with
    | cut htarget => cases hnone.symm.trans htarget
    | entered htarget => cases hnone.symm.trans htarget
    | dangling => exact iff_of_false (fun hne => hne rfl) (not_apart_of_dangling hnone)
  | @cut inside name reference target htarget hinside =>
    cases run' with
    | dangling hnone => cases hnone.symm.trans htarget
    | entered _ hnew => exact absurd ((hwithin _).2 (.inr hinside)) hnew
    | cut htarget' =>
      cases htarget'.symm.trans htarget
      exact iff_of_false (fun hne => hne rfl) (not_apart_of_cut houtside hinside)
  | @entered inside name reference target shape htarget hinside run ih =>
    by_cases hcomponent : lastSegment reference = component
    · subst hcomponent
      cases run' with
      | dangling hnone => cases hnone.symm.trans htarget
      | entered _ hnew => exact absurd ((hwithin _).2 (.inl rfl)) hnew
      | cut htarget' =>
        cases htarget'.symm.trans htarget
        rw [apart_met_iff htarget run, Option.map_some, Option.map_some, ne_eq,
          Option.some.injEq]
    · cases run' with
      | dangling hnone => cases hnone.symm.trans htarget
      | cut _ hmem => exact absurd ((hwithin _).1 hmem) (by simp [hcomponent, hinside])
      | entered htarget' _ run' =>
        cases htarget'.symm.trans htarget
        have hfurther : component ∉ lastSegment reference :: inside := by
          simp [houtside, Ne.symm hcomponent]
        have hwithin' : ∀ other, other ∈ lastSegment reference :: within ↔
            other = component ∨ other ∈ lastSegment reference :: inside := by
          intro other
          rw [List.mem_cons, List.mem_cons, hwithin]
          exact or_left_comm
        rw [apart_through_iff htarget hcomponent hinside,
          ← ih hfurther (hview.named _) hwithin' run']
        simp only [Option.map_some]
  | @wrapped inside name schema member shape hwrapped run ih =>
    have hgives : schema.GivesWay doc false := givesWay_of_run hwrapped run
    cases run' with
    | plain _ _ hnone => exact absurd hgives (not_givesWay_of_run hnone)
    | wrapped hwrapped' run' =>
      cases hwrapped'.symm.trans hwrapped
      rw [apart_wrapped_iff hwrapped hgives, ← ih houtside (hview.under _) hwithin run']
      simp only [Option.map_some]
  | @plain inside name schema node items hmember hlinked _ hnone _ _ ihproperty ihitems =>
    have hstays := not_givesWay_of_run hmember
    cases run' with
    | wrapped hwrapped run' => exact absurd (givesWay_of_run hwrapped run') hstays
    | plain node' items' _ hlinked' hproperties' hnone' hitems' =>
      rw [apart_plain_iff hstays, Option.map_some, Option.map_some, ne_eq, Option.some.injEq,
        ← ne_eq, plain_ne_iff hview]
      refine or_congr (exists_congr fun property => and_congr_right fun hmem => ?_) ?_
      · cases hlink : linkOf? property.2 with
        | some reference =>
          -- a property that stands for a reference has one node
          rw [hlinked _ hmem reference hlink, hlinked' _ hmem reference hlink]
          simp
        | none =>
          rw [← ihproperty _ hmem hlink houtside .id hwithin (hproperties' _ hmem hlink)]
          simp
      · cases hpart : schema.items with
        | none => simp [hnone hpart, hnone' hpart]
        | some part =>
          have hboth := ihitems part hpart houtside .id hwithin (hitems' part hpart)
          simpa using hboth

/-- Runs come apart where the way to the component is open and the node of the component has
    parts, as its stub has none. -/
theorem Expansion.apart_of_comesTo {result : Option Shape}
    (run : Expansion doc inside name schema result) (houtside : component ∉ inside)
    (hview : KeepsParts view) (h : doc.ComesTo component inside schema)
    (hparts : ∀ reference target, doc.schema? (.ref reference) = some target →
      lastSegment reference = component → ∀ inside name shape,
        Expansion doc inside name (.inline target) (some shape) → ¬ shape.IsBare) :
    Apart doc component inside name view schema := by
  -- On the run: it enters no component twice, and the way can be taken to avoid those it is in.
  induction run generalizing view with
  | dangling hnone =>
    have hsome := h.schema?_isSome
    rw [hnone] at hsome
    cases hsome
  | cut _ hinside =>
    cases h with
    | met _ hcomponent => exact absurd (hcomponent ▸ hinside) houtside
    | through _ hnew => exact absurd hinside hnew
  | @entered inside name reference target shape htarget hinside run ih =>
    by_cases hcomponent : lastSegment reference = component
    · subst hcomponent
      refine .met htarget rfl run fun heq => hparts reference target htarget rfl _ _ _ run ?_
      obtain ⟨hproperties, hitems⟩ :=
        hview { shape with component := some (lastSegment reference) }
      obtain ⟨hproperties', hitems'⟩ := hview (stub name (lastSegment reference) target)
      rw [heq] at hproperties hitems
      exact ⟨hproperties.symm.trans hproperties', hitems.symm.trans hitems'⟩
    · cases h with
      | met _ heq => exact absurd heq hcomponent
      | through htarget' _ hway =>
        cases htarget'.symm.trans htarget
        have hfurther : component ∉ lastSegment reference :: inside := by
          simp [houtside, Ne.symm hcomponent]
        exact .through htarget hcomponent hinside
          (ih hfurther (hview.named _) (hway.avoid_self htarget))
  | @wrapped _ _ schema _ _ hwrapped run ih =>
    have hgives : schema.GivesWay doc false := givesWay_of_run hwrapped run
    cases h with
    | property hstays => exact absurd hgives hstays
    | items hstays => exact absurd hgives hstays
    | member hwrapped' hway =>
      cases hwrapped'.symm.trans hwrapped
      exact .member hwrapped (ih houtside (hview.under _) hway)
  | plain node items hmember _ _ _ _ _ ihproperty ihitems =>
    cases h with
    | member hwrapped hway =>
      exact absurd rfl ((hmember _ hwrapped).ne_none_of_isSome hway.schema?_isSome)
    | property hstays hmem hlink hway =>
      exact .property hstays hmem hlink (ihproperty _ hmem hlink houtside .id hway)
    | items hstays hpart hway =>
      exact .items hstays hpart (ihitems _ hpart houtside .id hway)

end

/-! ## A component by reference and in place -/

section
variable {doc : Document} {component reference : String} {target : Schema}

/-- The two ways to expand a component take the same steps, one of them inside the component. -/
theorem exists_both_expanded (htarget : doc.schema? (.ref reference) = some target)
    (name : String) : ∃ inner entry,
      Expansion doc [lastSegment reference] name (.inline target) (some inner) ∧
      Expansion doc [] name (.inline target) (some entry) ∧
      doc.shape? name (.ref reference) =
        some { inner with component := some (lastSegment reference) } ∧
      doc.shape? name (.inline target) = some entry := by
  obtain ⟨inner, hinner, hshape⟩ := exists_entered htarget name
  obtain ⟨entry, hentry⟩ :=
    (expansion_iff.2 rfl : Expansion doc [] name (.inline target) _).ne_none
  exact ⟨inner, entry, hinner, expansion_iff.2 hentry, hshape, hentry⟩

/-- A reference to an entry that is written in place leads to it. -/
theorem schema?_of_entry (hname : nameIn? .schemas reference = some component)
    (hentry : (doc.entries .schemas).get? component = some (.inline target)) :
    doc.schema? (.ref reference) = some target := by
  have hfound : doc.resolve? .schemas (.ref reference) = some target := by
    rw [resolve?_ref, maxHops, follow_succ 15 hname hentry]
    rfl
  exact hfound

/-- The catalog has the shape of an entry that is written in place. -/
theorem get?_componentShapes_of_entry
    (hentry : (doc.entries .schemas).get? component = some (.inline target)) :
    (componentShapes doc).get? component = doc.shape? component (.inline target) := by
  rw [Document.entries] at hentry
  split at hentry
  · next components hcomponents => exact get?_componentShapes hcomponents hentry
  · cases hentry

/-- **A reference to a component and the component's schema in place have the same shape**, but
    for the name of the component, just if their expansions do not come apart. They do not where
    the schema does not lead to a reference to the component, and where it does and is written
    out they do: the shape by reference has nothing below further nodes of the component, and
    that in place, which the catalog has, expands it once more. -/
theorem dereference_agrees_iff (hname : nameIn? .schemas reference = some component)
    (hentry : (doc.entries .schemas).get? component = some (.inline target)) (name : String) :
    (componentShapes doc).get? component = doc.shape? component (.inline target) ∧
      ∃ shape entry, doc.shape? name (.ref reference) = some shape ∧
        doc.shape? name (.inline target) = some entry ∧
        (shape = { entry with component := some (lastSegment reference) } ↔
          ¬ Apart doc (lastSegment reference) [] name
            (fun shape => { shape with component := some (lastSegment reference) })
            (.inline target)) ∧
        (¬ doc.ComesTo (lastSegment reference) [] (.inline target) →
          shape = { entry with component := some (lastSegment reference) }) ∧
        (target.WrittenOut doc → doc.ComesTo (lastSegment reference) [] (.inline target) →
          shape ≠ { entry with component := some (lastSegment reference) }) ∧
        ∀ node, Relation.TransGen Shape.PartOf node shape →
          node.component = some (lastSegment reference) →
          node.properties = [] ∧ node.items = none := by
  have htarget := schema?_of_entry hname hentry
  obtain ⟨inner, entry, hinside, houtside, hshape, hplace⟩ := exists_both_expanded htarget name
  have hview : KeepsParts fun shape => { shape with component := some (lastSegment reference) } :=
    KeepsParts.id.named _
  have hapart : { inner with component := some (lastSegment reference) } =
        { entry with component := some (lastSegment reference) } ↔
      ¬ Apart doc (lastSegment reference) [] name
        (fun shape => { shape with component := some (lastSegment reference) })
        (.inline target) := by
    have hwithin : ∀ other, other ∈ [lastSegment reference] ↔
        other = lastSegment reference ∨ other ∈ ([] : List String) := by simp
    have hruns := houtside.apart_iff List.not_mem_nil hview hwithin hinside
    rw [← hruns, not_not, Option.map_some, Option.map_some, Option.some.injEq]
    exact eq_comm
  refine ⟨get?_componentShapes_of_entry hentry, _, entry, hshape, hplace, hapart, ?_, ?_, ?_⟩
  · exact fun hnot => hapart.2 fun h => hnot h.comesTo
  · intro hout hway heq
    refine hapart.1 heq (houtside.apart_of_comesTo List.not_mem_nil hview hway ?_)
    intro other target' htarget' hspelled inside name shape run
    cases resolve?_unique .schemas htarget' htarget hspelled
    exact not_isBare_of_comesTo hout hway run
  · intro node hbelow hcomponent
    obtain ⟨-, hunrepeated⟩ := expansion_unrepeated doc name (.ref reference)
    exact hunrepeated _ hshape _ node _ .refl hbelow rfl hcomponent

end

/-- A tree with lists of further trees, and a branch, which is a list of leaves. -/
def forest : Document where
  components := some { schemas := .ofList [("Leaf", .inline leaf), ("Branch", .inline branch),
    ("Tree", .inline tree)] }
where
  entry (name : String) : String := referenceTo .schemas name
  leaf : Schema := { types := ["string"] }
  branch : Schema := { types := ["array"], items := some (.ref (entry "Leaf")) }
  trees : Schema := { types := ["array"], items := some (.ref (entry "Tree")) }
  tree : Schema := { types := ["object"], properties := [("trees", .inline trees)] }

/-- The branch does not refer to itself. -/
theorem dereference_agrees_of_branch :
    nameIn? .schemas (forest.entry "Branch") = some "Branch" ∧
      (forest.entries .schemas).get? "Branch" = some (.inline forest.branch) ∧
      ∃ shape entry, forest.shape? "branch" (.ref (forest.entry "Branch")) = some shape ∧
        forest.shape? "branch" (.inline forest.branch) = some entry ∧
        shape = { entry with component := some "Branch" } := by
  have hname : nameIn? .schemas (forest.entry "Branch") = some "Branch" := by decide
  have hentry : (forest.entries .schemas).get? "Branch" = some (.inline forest.branch) := rfl
  have hsegment : lastSegment (forest.entry "Branch") = "Branch" := by decide
  have hleaf : forest.schema? (.ref (forest.entry "Leaf")) = some forest.leaf := rfl
  have hnot : ¬ forest.ComesTo "Branch" [] (.inline forest.branch) := by
    intro hway
    cases hway with
    | member hwrapped => cases hwrapped
    | property _ hmem => cases hmem
    | items _ hpart hway =>
      cases hpart
      cases hway with
      | met _ hcomponent => exact absurd hcomponent (by decide)
      | through htarget _ hway =>
        cases htarget.symm.trans hleaf
        cases hway with
        | member hwrapped => cases hwrapped
        | property _ hmem => cases hmem
        | items _ hpart => cases hpart
  obtain ⟨-, shape, entry, hshape, hplace, -, hsame, -⟩ :=
    dereference_agrees_iff hname hentry "branch"
  rw [hsegment] at hsame
  exact ⟨hname, hentry, shape, entry, hshape, hplace, hsame hnot⟩

/-- The tree does, and in the catalog the trees in its list have their own lists. -/
theorem dereference_disagrees_of_tree :
    (forest.entries .schemas).get? "Tree" = some (.inline forest.tree) ∧
      ((forest.shape? "Tree" (.ref (forest.entry "Tree"))).bind
        (·.at? [.property "trees", .items])).map (fun node =>
          (node.component, node.properties.map (·.1))) = some (some "Tree", []) ∧
      ((forest.shape? "Tree" (.inline forest.tree)).bind
        (·.at? [.property "trees", .items])).map (fun node =>
          (node.component, node.properties.map (·.1))) = some (some "Tree", ["trees"]) ∧
      (((componentShapes forest).get? "Tree").bind
        (·.at? [.property "trees", .items])).map (fun node =>
          (node.component, node.properties.map (·.1))) = some (some "Tree", ["trees"]) ∧
      forest.shape? "Tree" (.ref (forest.entry "Tree")) ≠
        (forest.shape? "Tree" (.inline forest.tree)).map fun entry =>
          { entry with component := some "Tree" } := by
  refine ⟨rfl, ?_, ?_, ?_, fun heq => ?_⟩
  · decide +kernel
  · decide +kernel
  · decide +kernel
  · have hbare := congrArg (fun result : Option Shape =>
      (result.bind (·.at? [.property "trees", .items])).map fun node =>
        node.properties.map (·.1)) heq
    exact absurd hbare (by decide +kernel)

end ApiKinds
