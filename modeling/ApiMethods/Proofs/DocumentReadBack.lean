/-
  ApiMethods.Proofs.DocumentReadBack
  ──────────────────────────────────
  **A DOCUMENT THAT IS WRITTEN AND READ AGAIN IS THE SAME DOCUMENT.**

  A document is a record like its parts, and it is kept wherever seven levels may be entered; at the
  root of a JSON text there are 127.  What is written of it is a plain value whose whole numbers are
  in range, so its compact text is read as its tree (`node?_compact_of_fits`), and off this tree
  the document is read again (`load_compact`).

  That a fraction is read off its own text is the one thing that is assumed of numbers.
-/
import ApiMethods.Proofs.OperationReadBack

namespace ApiMethods.Document

open ApiMethods.Source (Reader Fields Node Place Readable Regained OrRef JsonText.Legible)

/-! ## §1. The parts of a document. -/

theorem Info.keeps (room : Nat) :
    Info.reader.KeepsFields room ["title", "description", "version"] Info.toJson := by
  refine .record (by decide) fun f hf _ => ?_
  refine .step (.always hf .text (.text "")) fun title => ?_
  refine .step (.optional hf .text) fun description => ?_
  refine .step (.always hf .text (.text "")) fun version => ?_
  refine .done ?_ rfl
  simp [toJson]

/-- Information that is left out is what is read of an empty object. -/
theorem Info.regained_default {room : Nat} (h : 0 < room) :
    Regained Info.reader Info.toJson room {} := by
  obtain ⟨inner, rfl⟩ : ∃ inner, room = inner + 1 := ⟨room - 1, by omega⟩
  have hplain : (Json.object []).node.IsPlain :=
    ⟨1, Node.fits_object fun e he => absurd he List.not_mem_nil⟩
  exact (Info.keeps (inner + 1)).regained (p := ⟨.json, inner + 1, false⟩) rfl
    ⟨hplain, fun h => by cases h⟩ rfl

theorem schemas_keeps (room : Nat) : (Reader.table Schema.reader).Keeps room
    fun t => .object (Table.mapValues Schema.toJson t) := .table fun inner _ => Schema.keeps inner

theorem namedParameters_keeps (room : Nat) : (Reader.table (Reader.orRef Parameter.reader)).Keeps
    room fun t => .object (Table.mapValues (OrRef.toJson Parameter.toJson) t) :=
  .table fun inner _ => Parameter.orRef_keeps inner

theorem namedResponses_keeps (room : Nat) : Responses.reader.Keeps room
    fun t => .object (Table.mapValues (OrRef.toJson Response.toJson) t) := Responses.keeps room

theorem securitySchemes_keeps {room : Nat} (h : 5 ≤ room) :
    (Reader.table SecurityScheme.reader).Keeps room
      fun t => .object (Table.mapValues SecurityScheme.toJson t) :=
  .table fun inner hinner => (SecurityScheme.keeps (by omega)).toKeeps

theorem Components.keeps {room : Nat} (h : 6 ≤ room) :
    Components.reader.KeepsFields room Components.fieldNames Components.toJson := by
  refine .record (by decide) fun f hf hroom => ?_
  have hbodies : (Reader.table (Reader.orRef RequestBody.reader)).Keeps f.place.room
      fun t => .object (Table.mapValues (OrRef.toJson RequestBody.toJson) t) :=
    .table fun inner hinner => (RequestBody.keeps (by omega)).orRef (by decide)
  refine .step (.unlessEmpty hf (schemas_keeps _)) fun schemas => ?_
  refine .step (.unlessEmpty hf (namedResponses_keeps _)) fun responses => ?_
  refine .step (.unlessEmpty hf (namedParameters_keeps _)) fun parameters => ?_
  refine .step (.unlessEmpty hf hbodies) fun requestBodies => ?_
  refine .step (.unlessEmpty hf (Header.table_keeps _)) fun headers => ?_
  refine .step (.unlessEmpty hf (securitySchemes_keeps (by omega))) fun securitySchemes => ?_
  refine .done ?_ rfl
  simp [toJson, fieldNames, tableField]

theorem Paths.keeps {room : Nat} (h : 5 ≤ room) :
    (Reader.table PathItem.reader).Keeps room Paths.toJson :=
  .table fun inner hinner => PathItem.keeps (by omega)

/-! ## §2. Documents. -/

/-- **DOCUMENTS ARE KEPT.** -/
theorem keeps {room : Nat} (h : 7 ≤ room) :
    Document.reader.KeepsFields room Document.fieldNames Document.toJson := by
  refine .record (by decide) fun f hf hroom => ?_
  refine .step (.optional hf .text) fun openapi => ?_
  refine .step (.optional hf .text) fun swagger => ?_
  refine .step (.always hf (Info.keeps _).toKeeps (Info.regained_default (by omega))) fun info => ?_
  refine .step (.optional hf (Paths.keeps (by omega))) fun paths => ?_
  refine .step (.optional hf (Components.keeps (by omega)).toKeeps) fun components => ?_
  refine .step (.optional hf (Requirements.keeps _)) fun security => ?_
  refine .step (.unlessEmpty hf (schemas_keeps _)) fun definitions => ?_
  refine .step (.unlessEmpty hf (namedParameters_keeps _)) fun parameters => ?_
  refine .step (.unlessEmpty hf (namedResponses_keeps _)) fun responses => ?_
  refine .step (.unlessEmpty hf (securitySchemes_keeps (by omega))) fun securityDefinitions => ?_
  refine .step (.unlessEmpty hf .texts) fun consumes => ?_
  refine .done ?_ rfl
  simp [toJson, fieldNames, tableField]

/-- **WRITING A DOCUMENT AND READING IT AGAIN LOSES NOTHING**: when a JSON text is admitted as a
    document, the text that is written of the document is admitted too, and as the same document,
    with all its tables and lists in their order.  Of the numbers in the text it is assumed that a
    fraction is read off its own text; whole numbers are. -/
theorem load_compact (text : String) (d : Document) (h : load .json text = .ok d)
    (hfractions : ∀ x, .fraction x ∈ d.toJson.numbers → JsonText.Legible (.fraction x)) :
    load .json d.toJson.compact = .ok d := by
  obtain ⟨⟨o, n, hdocument, hread⟩, hversion⟩ := load_eq_ok_iff.mp h
  obtain ⟨n', hnode, heq⟩ := Option.map_eq_some_iff.mp hdocument
  cases heq
  -- nothing has been settled at the root, so the tree only has to be plain
  have hn : Readable (.root .json) n :=
    ⟨Source.JsonText.isPlain_node? hnode, fun hsettled => by cases hsettled⟩
  obtain ⟨hfits, hback⟩ := (keeps (by decide)).regained rfl hn hread
  have hwritten : Source.JsonText.node? d.toJson.compact = some d.toJson.node :=
    Source.JsonText.node?_compact_of_fits hfits hfractions
  have hagain : reader.run .json d.toJson.node = .ok d := hback (.root .json) hfits
  refine load_eq_ok_iff.mpr ⟨⟨.json, d.toJson.node, ?_, hagain⟩, hversion⟩
  show (Source.JsonText.node? d.toJson.compact).map (fun n => (Source.Origin.json, n)) = _
  rw [hwritten]
  rfl

/-- A half: `2 ^ 52 · 2 ^ (-53)`. -/
def half : Number.Value := .fraction ⟨false, 4503599627370496, -53⟩

/-- Parcels are listed and sent: a key is given twice, a response is written as a list, a summary is
    nothing, the security of an operation is opted out of, and a free value has its keys unsorted,
    one of them a fraction. -/
def parcelJson : Json :=
  .object [
    ("openapi", .text "3.0.3"),
    ("info", .object [("title", .text "Parcels")]),
    ("paths", .object [
      ("/parcels", .object [
        ("get", .object []),
        ("note", .whole 1),
        ("post", .object [("requestBody", .object [("content", .object [])])]),
        ("get", .object [
          ("operationId", .text "listParcels"),
          ("summary", .null),
          ("security", .list []),
          ("parameters", .list [.object [("$ref", .text "#/components/parameters/weight")]]),
          ("responses", .object [("200", .list [.text "all", .object [], .null])])])])]),
    ("components", .object [
      ("parameters", .object [
        ("weight", .object [("in", .text "query"), ("name", .text "weight"),
          ("type", .text "number")])]),
      ("schemas", .object [
        ("Parcel", .object [
          ("type", .list [.text "object", .text "null"]),
          ("additionalProperties", .bool true),
          ("default", .object [("width", .number half), ("height", .whole 2)])])])])]

/-- What is read of `parcelJson`. -/
def parcelDocument : Document where
  openapi := some "3.0.3"
  info := { title := "Parcels" }
  paths := some [("/parcels", { operations := [
    (.get, {
      operationId := some "listParcels"
      parameters := [.ref "#/components/parameters/weight"]
      responses := [("200", .inline { description := "all" })]
      security := some [] }),
    (.post, { requestBody := some (.inline {}) })] })]
  components := some {
    schemas := [("Parcel", .inline {
      type := some (.several [.object, .null])
      additional := some (.allowed true)
      defaultValue := some (.object [("height", .whole 2), ("width", .number half)]) })]
    parameters := [("weight", .inline {
      name := "weight", location := .known .query, type := some .number })] }

/-- A half is written as it is read. -/
theorem legible_half : JsonText.Legible half :=
  ⟨⟨false, "0".toList, "5".toList, none⟩, by decide +kernel, by decide +kernel⟩

theorem legible_parcelNumbers : ∀ n ∈ [.whole 1, half, .whole 2], JsonText.Legible n := by
  intro n hn
  rcases List.mem_cons.mp hn with rfl | hn
  · exact Source.JsonText.legible_whole (by decide)
  rcases List.mem_cons.mp hn with rfl | hn
  · exact legible_half
  cases List.mem_singleton.mp hn
  exact Source.JsonText.legible_whole (by decide)

/-- The parcels are read, and written with every key in its place: `get` once and before `post`, the
    response as an object, and the free value sorted.  What is written is another text, and is read
    as what was read. -/
theorem load_compact_parcelDocument :
    load .json parcelJson.compact = .ok parcelDocument ∧
      parcelDocument.toJson.compact ≠ parcelJson.compact ∧
      load .json parcelDocument.toJson.compact = .ok parcelDocument := by
  have hnode : Source.JsonText.node? parcelJson.compact = some parcelJson.node :=
    Source.JsonText.node?_compact legible_parcelNumbers
  have hwritten : ∀ n ∈ parcelDocument.toJson.numbers, JsonText.Legible n := by
    have hlist : parcelDocument.toJson.numbers = [.whole 2, half] := rfl
    have hsubset : [.whole 2, half] ⊆ [.whole 1, half, .whole 2] := by decide
    rw [hlist]
    exact fun n hn => legible_parcelNumbers n (hsubset hn)
  have hload : load .json parcelJson.compact = .ok parcelDocument := by
    refine load_eq_ok_iff.mpr ⟨⟨.json, parcelJson.node, ?_, rfl⟩, rfl⟩
    show (Source.JsonText.node? parcelJson.compact).map (fun n => (Source.Origin.json, n)) = _
    rw [hnode]
    rfl
  refine ⟨hload, fun heq => ?_, load_compact _ _ hload fun x hx => hwritten _ hx⟩
  -- equal texts would have equal trees, but one tree is greater than the other
  have hnodes := Source.JsonText.node?_compact hwritten
  rw [heq, hnode] at hnodes
  have hweights := congrArg Node.weight (Option.some.inj hnodes)
  revert hweights
  decide

end ApiMethods.Document
