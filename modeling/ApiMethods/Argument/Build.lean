/-
  ApiMethods.Argument.Build — settling the type and the encoding of a parameter.

  A path parameter has to have a simple type and may not be declared optional.  Elsewhere a
  list or an object may have unknown parts, which are degraded, but a value that is nothing
  else than unknown is refused.
-/
import ApiMethods.Argument.Merge
import ApiMethods.Types.OfSchema

namespace ApiMethods.Argument

open Document (Parameter Schema)

/-! ## §1. Styles -/

/-- What the older field `collectionFormat` means. -/
def ofCollectionFormat? : String → Option (Style × Bool)
  | "csv" => some (.form, false)
  | "ssv" => some (.spaceDelimited, false)
  | "pipes" => some (.pipeDelimited, false)
  | "multi" => some (.form, true)
  | _ => none

/-- What a parameter says in the older form. -/
def legacyStyle? (p : Parameter) : Option (Style × Bool) :=
  p.collectionFormat.bind ofCollectionFormat?

/-- The style of a parameter: the declared one, that of its place when the declared one is unknown,
    the one of the older form, or that of its place. -/
def styleOf (p : Parameter) (location : Location) : Style :=
  match p.style with
  | some s => (Style.ofText? s).getD (.ofLocation location)
  | none => ((legacyStyle? p).map (·.1)).getD (.ofLocation location)

/-- Whether the parts of a parameter explode: as declared, as the older form says when it means the
    same style, or as usual for the style. -/
def explodeOf (p : Parameter) (style : Style) : Bool :=
  match p.explode with
  | some b => b
  | none => match legacyStyle? p with
    | some (s, b) => if s = style then b else style.explodes
    | none => style.explodes

/-! ## §2. Types -/

/-- The type of a path parameter: simple and known. -/
def pathType (p : Parameter) : Except SkipReason ValueType :=
  match p.effectiveSchema with
  | none => .error (.pathParameterWithoutSchema p.name)
  | some s =>
    if p.required = some false then .error (.pathParameterNotRequired p.name)
    else
      let t := ValueType.ofSchema s
      if t.isComposite || !t.isResolved then .error (.unresolvedPathParameterType p.name)
      else .ok t

/-- The type of a parameter in another place. -/
def otherType (p : Parameter) (location : Location) : Except SkipReason ValueType :=
  let t := (p.effectiveSchema.map ValueType.ofSchema).getD .unresolved
  if t.isComposite then .ok t.degrade
  else if t.isResolved then .ok t
  else .error (.unresolvedParameterType p.name location)

/-- The type of a parameter. -/
def typeOf (p : Parameter) (location : Location) : Except SkipReason ValueType :=
  if location = .path then pathType p else otherType p location

/-! ## §3. Arguments -/

/-- Whether an argument has to be given. -/
def requiredOf (p : Parameter) (location : Location) : Bool :=
  location = .path || p.required.getD false

/-- The argument of a parameter whose type is settled. -/
def ofTyped (p : Parameter) (location : Location) (type : ValueType) : Argument :=
  let style := styleOf p location
  let explode := explodeOf p style
  { name := p.name
    ident := .of p.name
    location := location
    required := requiredOf p location
    type := type
    style := style
    explode := explode
    encoding := .plan location style explode type
    description := p.description
    deprecated := p.deprecated.getD false
    schema := p.effectiveSchema }

/-- The argument that a parameter makes in a place. -/
def build (p : Parameter) (location : Location) : Except SkipReason Argument :=
  (typeOf p location).map (ofTyped p location)

/-- The arguments that merged parameters make, or the reason why the first of them makes none. -/
def buildAll (m : Merged) : Except SkipReason Arguments :=
  (m.parameters.mapM fun e => build e.2 e.1.2).map Arguments.ofList

end ApiMethods.Argument
