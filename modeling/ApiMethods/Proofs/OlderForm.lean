/-
  ApiMethods.Proofs.OlderForm
  ───────────────────────────
  **A PARAMETER WITH A TYPE OF ITS OWN MAKES THE ARGUMENT THAT ITS MODERN FORM MAKES.**

  In the older form a parameter has a type, a format and items of its own, and says by
  `collectionFormat` how a list travels.  The MODERN FORM moves the first three into a schema, and
  replaces the last by a style:

      csv       form, not exploded
      ssv       spaceDelimited, not exploded
      pipes     pipeDelimited, not exploded
      multi     form, exploded
      others    neither is declared

  The two forms take different ways.  In one the items are inlined as a field of the parameter, and
  the style comes from the older field; in the other they are inlined as a part of the schema, and
  the style is read from its name.  They meet in what the type and the encoding are settled from:
  the schema of the value, the style, and whether it explodes.
-/
import ApiMethods.Proofs.Wrappers

namespace ApiMethods

open ApiMethods.Source (OrRef)
open Document (Parameter Schema TypeName)

namespace Document.Parameter

/-! ## §1. The modern form. -/

/-- A parameter in the older form: it is no body, has a type of its own and no schema, and declares
    neither a style nor whether it explodes. -/
structure IsOlder (p : Parameter) (type : TypeName) : Prop where
  not_body : p.isBody = false
  type_eq : p.type = some type
  schema_eq : p.schema = none
  style_eq : p.style = none
  explode_eq : p.explode = none

/-- The style that a `collectionFormat` stands for, and whether it explodes. -/
def modernStyle? : String → Option (String × Bool)
  | "csv" => some ("form", false)
  | "ssv" => some ("spaceDelimited", false)
  | "pipes" => some ("pipeDelimited", false)
  | "multi" => some ("form", true)
  | _ => none

/-- The parameter with its type, format and items in a schema, and with a style. -/
def modern (p : Parameter) : Parameter :=
  { p with
    schema := p.type.map fun type =>
      .inline { type := some (.one type), format := p.format, items := p.items }
    style := (p.collectionFormat.bind modernStyle?).map (·.1)
    explode := (p.collectionFormat.bind modernStyle?).map (·.2)
    type := none
    format := none
    items := none
    collectionFormat := none }

end Document.Parameter

/-! ## §2. Inlining. -/

namespace Document

variable (d : Document) {p : Parameter} {type : TypeName}

/-- An inlined parameter is in the older form still. -/
theorem Parameter.IsOlder.inlineParameter (h : p.IsOlder type) :
    (d.inlineParameter p).IsOlder type := by
  rw [inlineParameter_of_not_isBody d h.not_body, h.schema_eq]
  exact ⟨h.not_body, h.type_eq, rfl, h.style_eq, h.explode_eq⟩

/-- **THE ITEMS ARE INLINED ALIKE**, as a field of the parameter and as a part of its schema. -/
theorem inlineParameter_modern (h : p.IsOlder type) :
    d.inlineParameter p.modern = (d.inlineParameter p).modern := by
  have hbody : p.modern.isBody = false := h.not_body
  rw [inlineParameter_of_not_isBody d hbody, inlineParameter_of_not_isBody d h.not_body]
  have hschema : p.modern.schema.map d.inlineSchema = some (.inline
      { type := some (.one type), format := p.format, items := p.items.map d.inlineSchema }) := by
    unfold Parameter.modern
    rw [h.type_eq]
    exact congrArg some (inlineSchema_inline d _)
  rw [hschema]
  unfold Parameter.modern
  rw [h.type_eq]
  rfl

end Document

/-! ## §3. Building. -/

namespace Argument

/-- The style of the modern form is, by its name, the one that the `collectionFormat` means. -/
theorem modernStyle?_eq (format : String) :
    Parameter.modernStyle? format =
      (ofCollectionFormat? format).map fun e => (e.1.text, e.2) := by
  unfold ofCollectionFormat?
  split
  · rfl
  · rfl
  · rfl
  · rfl
  · simp [Parameter.modernStyle?, *]

theorem bind_modernStyle? (p : Parameter) :
    p.collectionFormat.bind Parameter.modernStyle? =
      (legacyStyle? p).map fun e => (e.1.text, e.2) := by
  unfold legacyStyle?
  cases p.collectionFormat with
  | none => rfl
  | some format => exact modernStyle?_eq format

section Modern

variable {p : Parameter} {type : TypeName} (h : p.IsOlder type) (location : Location)
include h

theorem effectiveSchema_modern : p.modern.effectiveSchema = p.effectiveSchema := by
  have holder : p.effectiveSchema = some (.ofType type p.format p.items) :=
    Parameter.effectiveSchema_eq_some_iff.mpr (.inr ⟨h.schema_eq, type, h.type_eq, rfl⟩)
  have hschema : p.modern.schema = some (.ofType type p.format p.items) := by
    unfold Parameter.modern
    rw [h.type_eq]
    rfl
  rw [holder, Parameter.effectiveSchema_eq_some_iff.mpr (.inl hschema)]

theorem typeOf_modern : typeOf p.modern location = typeOf p location := by
  unfold typeOf pathType otherType
  rw [effectiveSchema_modern h]
  rfl

/-- **Style**: a declared style is taken before a `collectionFormat`, and here they say the same. -/
theorem styleOf_modern : styleOf p.modern location = styleOf p location := by
  have hdeclared : p.modern.style = (legacyStyle? p).map (·.1.text) := by
    show (p.collectionFormat.bind Parameter.modernStyle?).map (·.1) = _
    rw [bind_modernStyle?, Option.map_map]
    rfl
  unfold styleOf
  rw [hdeclared, h.style_eq]
  cases legacyStyle? p with
  | none => rfl
  | some e =>
    show (Style.ofText? e.1.text).getD (.ofLocation location) = e.1
    rw [Style.ofText?_text]
    rfl

/-- **Explosion**: it is declared in the modern form; in the older form it is that of the
`collectionFormat`, because this has settled the style as well. -/
theorem explodeOf_modern :
    explodeOf p.modern (styleOf p location) = explodeOf p (styleOf p location) := by
  have hdeclared : p.modern.explode = (legacyStyle? p).map (·.2) := by
    show (p.collectionFormat.bind Parameter.modernStyle?).map (·.2) = _
    rw [bind_modernStyle?, Option.map_map]
    rfl
  unfold explodeOf styleOf
  rw [hdeclared, h.explode_eq, h.style_eq]
  cases legacyStyle? p with
  | none => rfl
  | some e =>
    show e.2 = if e.1 = e.1 then e.2 else _
    rw [if_pos rfl]

theorem ofTyped_modern (t : ValueType) : ofTyped p.modern location t = ofTyped p location t := by
  simp only [ofTyped, styleOf_modern h, explodeOf_modern h, effectiveSchema_modern h]
  rfl

/-- **BOTH FORMS MAKE THE SAME ARGUMENT**, or are refused for the same reason. -/
theorem build_modern : build p.modern location = build p location := by
  unfold build
  rw [typeOf_modern h, funext (ofTyped_modern h location)]

end Modern

end Argument

/-! ## §4. Declarations. -/

namespace Document

/-- **THE OLDER FORM MEANS WHAT THE MODERN FORM MEANS**: in every document and every place, a
parameter with a type of its own makes the argument that its modern form makes, the recorded schema
and all, or is refused for the reason for which its modern form is refused. -/
theorem argument_modern (d : Document) (p : Parameter) (type : TypeName) (h : p.IsOlder type)
    (location : Location) :
    d.argument (.inline p.modern) location = d.argument (.inline p) location := by
  rw [argument_inline, argument_inline, inlineParameter_modern d h]
  exact Argument.build_modern (h.inlineParameter d) location

/-- A document that declares what an id is. -/
def idsDocument : Document where
  swagger := some "2.0"
  definitions := [("Id", .inline { type := some (.one .integer) })]

/-- Orders are filtered by ids, each of which is repeated in the query. -/
def idsParameter : Parameter where
  name := "ids"
  location := .known .query
  type := some .array
  items := some (.ref "#/definitions/Id")
  collectionFormat := some "multi"

/-- Both forms of the filter make the same argument: a list of whole numbers, one entry for each. -/
theorem argument_modern_idsParameter :
    idsParameter.IsOlder .array ∧
    idsParameter.modern.style = some "form" ∧ idsParameter.modern.explode = some true ∧
    idsDocument.argument (.inline idsParameter.modern) .query =
      idsDocument.argument (.inline idsParameter) .query ∧
    (idsDocument.argument (.inline idsParameter) .query).map
        (fun a => (a.type, a.encoding.shape)) =
      .ok (.array (.primitive .integer), .repeatedKey) := by
  have holder : idsParameter.IsOlder .array := ⟨rfl, rfl, rfl, rfl, rfl⟩
  refine ⟨holder, rfl, rfl, argument_modern _ _ .array holder .query, ?_⟩
  have htarget : idsDocument.schemaAt? "#/definitions/Id"
      = some { type := some (.one .integer) } := rfl
  have hid : idsDocument.inlineSchema (.ref "#/definitions/Id")
      = .inline { type := some (.one .integer) } := inlineSchema_ref _ htarget
  rw [argument_inline, inlineParameter_of_not_isBody _ holder.not_body]
  show (Argument.build { idsParameter with
    schema := none
    items := some (idsDocument.inlineSchema (.ref "#/definitions/Id")) } .query).map _ = _
  rw [hid]
  rfl

end Document

end ApiMethods
