/-
  ApiMethods.Source.Text — reading a value off a text in either notation.
-/
import ApiMethods.Source.JsonText
import ApiMethods.Source.Reader
import ApiMethods.Source.YamlText

namespace ApiMethods.Source

/-- The root of a text and what surrounds it. -/
def Format.document? (f : Format) (text : String) : Option (Origin × Node) :=
  match f with
  | .json => (JsonText.node? text).map fun n => (Origin.json, n)
  | .yaml => YamlText.document? text

/-- Read a value off a text. -/
def Format.read {α : Type} (f : Format) (r : Reader α) (text : String) : Except Fault α :=
  match f.document? text with
  | some (o, n) => r.run o n
  | none => .error .malformed

end ApiMethods.Source
