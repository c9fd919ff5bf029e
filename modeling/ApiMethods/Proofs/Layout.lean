/-
  ApiMethods.Proofs.Layout
  ────────────────────────
  **THE PLAN OF AN ARGUMENT AND THE WRITING OF ITS VALUES AGREE.**

  How an argument travels is decided twice: from its TYPE, when the shape of its encoding is
  planned, and from the VALUE, when it is written.  `Shape.layOut` says what each shape means,
  on its own and for any value:

      scalar                 name = text
      joined sep             name = item sep item …
      repeatedKey            name = item, name = item, …
      deepObject             name[key] = text, …
      flattenedProperties    key = text, …
      keyValueList sep       name = key sep text sep key sep text …
      keyValuePairs sep      name = key=text sep key=text …

  A shape that was planned for values of a kind lays out values of that kind (`kind_inLocation`),
  so the writer never meets a shape that it has no rule for, and what it writes is what the plan
  says.  Outside the query string no shape has several entries, and so every value is one text.
-/
import ApiMethods.Argument.Build
import ApiMethods.Argument.Encode
import ApiMethods.Proofs.Stages

namespace ApiMethods

open Document (Parameter)

/-! ## §1. What shapes mean. -/

namespace Json

/-- The items of a list; no other value has items. -/
def items : Json → List Json
  | .list items => items
  | _ => []

/-- The properties of an object; no other value has properties. -/
def properties : Json → List (String × Json)
  | .object entries => entries
  | _ => []

end Json

namespace Argument

/-- A part of a value as one text: a text is written as it is, nothing as the empty text, truth
    values and numbers by their names, and what has parts itself as JSON without spaces. -/
def partText : Json → String
  | .text s => s
  | .null => ""
  | .bool b => if b then "true" else "false"
  | .number n => n.write Json.floatStyle
  | .list items => (Json.list items).compact
  | .object entries => (Json.object entries).compact

/-- A value laid out in a shape, under a name. -/
def Shape.layOut (name : String) (v : Json) : Shape → Encoded
  | .scalar => .single name (partText v)
  | .joined separator => .single name (separator.intercalate (v.items.map partText))
  | .repeatedKey => .repeated name (v.items.map partText)
  | .deepObject =>
    .entries (v.properties.map fun e => (name ++ "[" ++ e.1 ++ "]", partText e.2))
  | .flattenedProperties => .entries (v.properties.map fun e => (e.1, partText e.2))
  | .keyValueList separator =>
    .single name (separator.intercalate (v.properties.flatMap fun e => [e.1, partText e.2]))
  | .keyValuePairs separator =>
    .single name (separator.intercalate (v.properties.map fun e => e.1 ++ "=" ++ partText e.2))

/-- The kind of the values that a shape is for. -/
def Shape.kind : Shape → Kind
  | .scalar => .scalar
  | .joined _ => .list
  | .repeatedKey => .list
  | .deepObject => .object
  | .flattenedProperties => .object
  | .keyValueList _ => .object
  | .keyValuePairs _ => .object

/-! ## §2. Which shapes are planned. -/

namespace Shape

theorem kind_free (kind : Kind) (style : Style) (explode : Bool) :
    (free kind style explode).kind = kind := by
  cases kind <;> cases style <;> cases explode <;> rfl

/-- Putting a shape into one entry keeps the values that it is for. -/
theorem kind_single (shape : Shape) : shape.single.kind = shape.kind := by
  cases shape <;> rfl

theorem isMultiEntry_single (shape : Shape) : shape.single.isMultiEntry = false := by
  cases shape <;> rfl

/-- **A SHAPE IS PLANNED FOR VALUES OF ITS OWN KIND**, in every place and style. -/
theorem kind_inLocation (location : Location) (kind : Kind) (style : Style) (explode : Bool) :
    (inLocation location kind style explode).kind = kind := by
  unfold inLocation
  by_cases hquery : location = .query
  · rw [if_pos hquery, kind_free]
  · rw [if_neg hquery, kind_single, kind_free]

/-- **OUTSIDE THE QUERY STRING A SHAPE HAS ONE ENTRY.** -/
theorem isMultiEntry_inLocation {location : Location} (h : location ≠ .query) (kind : Kind)
    (style : Style) (explode : Bool) :
    (inLocation location kind style explode).isMultiEntry = false := by
  unfold inLocation
  rw [if_neg h]
  exact isMultiEntry_single _

/-- A shape with one entry lays every value out as one text under the name. -/
theorem layOut_eq_single {shape : Shape} (h : shape.isMultiEntry = false) (name : String)
    (v : Json) : ∃ text, shape.layOut name v = .single name text := by
  cases shape with
  | scalar => exact ⟨_, rfl⟩
  | joined separator => exact ⟨_, rfl⟩
  | keyValueList separator => exact ⟨_, rfl⟩
  | keyValuePairs separator => exact ⟨_, rfl⟩
  | repeatedKey => cases h
  | deepObject => cases h
  | flattenedProperties => cases h

end Shape

/-! ## §3. What is written. -/

theorem valueText_eq_partText (v : Json) : valueText v = partText v := by
  cases v with
  | null => rfl
  | bool b => cases b <;> rfl
  | text s => rfl
  | number n =>
    show String.ofList (n.write Json.floatStyle).toList = n.write Json.floatStyle
    exact String.ofList_toList
  | list items => rfl
  | object entries => rfl

theorem map_valueText (items : List Json) : items.map valueText = items.map partText :=
  List.map_congr_left fun v _ => valueText_eq_partText v

theorem propertyTexts_eq (entries : List (String × Json)) :
    propertyTexts entries = entries.map fun e => (e.1, partText e.2) :=
  List.map_congr_left fun e _ => by rw [valueText_eq_partText]

/-- Items are written as a shape for lists says. -/
theorem encodeItems_eq_layOut {shape : Shape} (h : shape.kind = .list) (name : String)
    (items : List Json) :
    encodeItems name shape (items.map valueText) = shape.layOut name (.list items) := by
  rw [map_valueText]
  cases shape with
  | joined separator => rfl
  | repeatedKey => rfl
  | scalar => cases h
  | deepObject => cases h
  | flattenedProperties => cases h
  | keyValueList separator => cases h
  | keyValuePairs separator => cases h

/-- Properties are written as a shape for objects says. -/
theorem encodeProperties_eq_layOut {shape : Shape} (h : shape.kind = .object) (name : String)
    (entries : List (String × Json)) :
    encodeProperties name shape (propertyTexts entries) (.object entries)
      = shape.layOut name (.object entries) := by
  rw [propertyTexts_eq]
  cases shape with
  | deepObject =>
    show Encoded.entries (List.map _ (List.map _ entries)) = Encoded.entries _
    rw [List.map_map]
    rfl
  | flattenedProperties => rfl
  | keyValueList separator =>
    show Encoded.single name (separator.intercalate (List.flatMap _ (List.map _ entries))) = _
    rw [List.flatMap_map]
    rfl
  | keyValuePairs separator =>
    show Encoded.single name (separator.intercalate (List.map pairText (List.map _ entries))) = _
    rw [List.map_map]
    rfl
  | scalar => cases h
  | joined separator => cases h
  | repeatedKey => cases h

/-- **EVERY VALUE IS WRITTEN IN A SHAPE**, the one that is planned for values of its kind. -/
theorem encode_eq_layOut (a : Argument) (v : Json) :
    encode a v = (Shape.inLocation a.location (.ofValue v) a.style a.explode).layOut a.name v := by
  have hkind := Shape.kind_inLocation a.location (.ofValue v) a.style a.explode
  cases v with
  | list items => exact encodeItems_eq_layOut hkind a.name items
  | object entries => exact encodeProperties_eq_layOut hkind a.name entries
  | null | bool | number | text =>
    -- the shape of a simple value is the same in every place and style
    have hscalar : Shape.inLocation a.location .scalar a.style a.explode = .scalar := by
      unfold Shape.inLocation
      split <;> rfl
    show Encoded.single a.name (valueText _) = (Shape.inLocation a.location .scalar _ _).layOut _ _
    rw [hscalar, valueText_eq_partText]
    rfl

/-- The shape of an argument that was built is the one for values of its type. -/
theorem shape_of_build {p : Parameter} {location : Location} {a : Argument}
    (h : build p location = .ok a) :
    a.location = location ∧
      a.encoding.shape = .inLocation a.location (.ofType a.type) a.style a.explode := by
  obtain ⟨t, -, rfl⟩ := map_eq_ok h
  exact ⟨rfl, rfl⟩

/-! ## §4. Plan and value. -/

/-- **WHAT IS WRITTEN IS WHAT IS PLANNED.**  An argument writes every value of the kind of its type
as its planned shape says; and outside the query string it writes every value at all, of whatever
kind, as one text under its own name. -/
theorem encode_follows_plan (p : Parameter) (location : Location) (a : Argument)
    (h : build p location = .ok a) :
    (∀ v, Kind.ofValue v = .ofType a.type → encode a v = a.encoding.shape.layOut a.name v) ∧
    (location ≠ .query → ∀ v, ∃ text, encode a v = .single a.name text) := by
  obtain ⟨hlocation, hshape⟩ := shape_of_build h
  constructor
  · intro v hv
    rw [hshape, ← hv]
    exact encode_eq_layOut a v
  · intro hquery v
    rw [encode_eq_layOut]
    have hplace : a.location ≠ .query := by
      rw [hlocation]
      exact hquery
    exact Shape.layOut_eq_single (Shape.isMultiEntry_inLocation hplace _ _ _) a.name v

/-- A filter that travels in a cookie, though its style is one for several entries of a query. -/
def filterParameter : Parameter where
  name := "filter"
  location := .known .cookie
  style := some "deepObject"
  explode := some true
  schema := some (.inline { type := some (.one .object), properties := [
    ("tags", .inline { type := some (.one .array), items := some (.ref "#/definitions/Tag") }),
    ("open", .inline { type := some (.one .boolean) })] })

/-- A value of the filter, with parts inside a part. -/
def filterValue : Json :=
  .object [("tags", .list [.text "new", .null]), ("open", .bool true), ("note", .null)]

/-- The filter is planned and written as pairs in one text, and a value that is no object is written
as one text as well. -/
theorem encode_filter_as_pairs :
    ∃ a, build filterParameter .cookie = .ok a ∧ a.encoding.shape = .keyValuePairs "," ∧
      Kind.ofValue filterValue = .ofType a.type ∧
      encode a filterValue = .single "filter" "tags=[\"new\",null],open=true,note=" ∧
      Location.cookie ≠ .query ∧
      ∃ text, encode a (.list [.text "new", .text "old"]) = .single "filter" text := by
  obtain ⟨a, ha, hname, hshape, hkind⟩ : ∃ a, build filterParameter .cookie = .ok a ∧
      a.name = "filter" ∧ a.encoding.shape = .keyValuePairs "," ∧ Kind.object = .ofType a.type :=
    ⟨_, rfl, rfl, rfl, rfl⟩
  obtain ⟨hplanned, hsingle⟩ := encode_follows_plan filterParameter .cookie a ha
  have hquery : Location.cookie ≠ .query := by decide
  refine ⟨a, ha, hshape, hkind, ?_, hquery, ?_⟩
  · rw [hplanned filterValue hkind, hshape, hname]
    rfl
  · obtain ⟨text, htext⟩ := hsingle hquery (.list [.text "new", .text "old"])
    rw [hname] at htext
    exact ⟨text, htext⟩

end Argument

end ApiMethods
