/-
  ApiMethods.Yaml.Tree — the tree of a YAML document.

  Tokens become nodes.  A node may carry an anchor and a tag; where the notation leaves a
  value out, an empty plain scalar stands in its place.  A text holds at most one document,
  and the document may declare tag handles in front.

  Every step that goes on reads a token, so a number of steps in proportion to the tokens
  is enough; the number in front of each reading counts them down.
-/
import ApiMethods.Yaml.Token

namespace ApiMethods.Yaml

/-! ## §1. Trees -/

/-- What a node carries besides its content.  A tag is a handle and a suffix. -/
structure Props where
  anchor : Option String
  tag : Option (String × String)
deriving Repr, DecidableEq

/-- A node without anchor and tag. -/
def Props.none : Props := ⟨.none, .none⟩

/-- A node. -/
inductive Tree
  | scalar (props : Props) (text : String) (style : ScalarStyle)
  | blank (props : Props)
  | list (props : Props) (items : List Tree)
  | map (props : Props) (entries : List (Tree × Tree))
  | alias (name : String)
deriving Repr

/-- A document: the tag handles it declares, and its root unless the text is empty. -/
structure Document where
  handles : List (String × String)
  root : Option Tree
deriving Repr

namespace Tree

/-- A value that was left out. -/
def missing : Tree := .blank .none

/-! ## §2. What ends a value that was left out -/

/-- Tokens behind which an item of a block list may be empty. -/
def endsItem : List Token → Bool
  | .blockEntry :: _ => true
  | .blockEnd :: _ => true
  | _ => false

/-- Tokens behind which a key or value of a block map may be empty. -/
def endsBlockValue : List Token → Bool
  | .key :: _ => true
  | .value :: _ => true
  | .blockEnd :: _ => true
  | _ => false

/-- Tokens behind which a value in a flow list may be empty. -/
def endsListValue : List Token → Bool
  | .flowEntry :: _ => true
  | .flowListEnd :: _ => true
  | _ => false

/-- Tokens behind which a value in a flow map may be empty. -/
def endsMapValue : List Token → Bool
  | .flowEntry :: _ => true
  | .flowMapEnd :: _ => true
  | _ => false

/-- Whether a value token comes next. -/
def valueFollows : List Token → Bool
  | .value :: _ => true
  | _ => false

/-- The anchor and the tag in front of a node, in either order. -/
def props : List Token → Props × List Token
  | .anchor a :: .tag h s :: rest => (⟨some a, some (h, s)⟩, rest)
  | .tag h s :: .anchor a :: rest => (⟨some a, some (h, s)⟩, rest)
  | .anchor a :: rest => (⟨some a, none⟩, rest)
  | .tag h s :: rest => (⟨none, some (h, s)⟩, rest)
  | rest => (.none, rest)

/-- The comma in front of an entry that is not the first. -/
def comma (first : Bool) : List Token → Option (List Token)
  | .flowEntry :: rest => if first then some (.flowEntry :: rest) else some rest
  | rest => if first then some rest else none

/-! ## §3. Nodes -/

mutual

/-- A node.  Block collections start only where `block` admits them; where `dashes` does, the items
    of a list may stand at the indentation of the map around them. -/
def node (block dashes : Bool) : Nat → List Token → Option (Tree × List Token)
  | 0, _ => none
  | fuel + 1, ts =>
    match ts with
    | .alias name :: rest => some (.alias name, rest)
    | _ =>
      let (p, ts) := props ts
      match ts with
      | .scalar text style :: rest => some (.scalar p text style, rest)
      | .flowListStart :: rest => do
        let (items, rest) ← flowItems fuel true rest
        return (.list p items, rest)
      | .flowMapStart :: rest => do
        let (entries, rest) ← flowEntries fuel true rest
        return (.map p entries, rest)
      | .blockEntry :: _ =>
        if dashes then do
          let (items, rest) ← dashItems fuel ts
          return (.list p items, rest)
        else if p = .none then none else some (.blank p, ts)
      | .blockListStart :: rest =>
        if block then do
          let (items, rest) ← blockItems fuel rest
          return (.list p items, rest)
        else if p = .none then none else some (.blank p, ts)
      | .blockMapStart :: rest =>
        if block then do
          let (entries, rest) ← blockEntries fuel rest
          return (.map p entries, rest)
        else if p = .none then none else some (.blank p, ts)
      | _ => if p = .none then none else some (.blank p, ts)

/-- The items of a block list up to its end. -/
def blockItems : Nat → List Token → Option (List Tree × List Token)
  | 0, _ => none
  | fuel + 1, .blockEntry :: ts => do
    let (item, ts) ← if endsItem ts then some (missing, ts) else node true false fuel ts
    let (items, ts) ← blockItems fuel ts
    return (item :: items, ts)
  | _ + 1, .blockEnd :: ts => some ([], ts)
  | _ + 1, _ => none

/-- The items of a list at the indentation of the map around it. -/
def dashItems : Nat → List Token → Option (List Tree × List Token)
  | 0, _ => none
  | fuel + 1, .blockEntry :: ts => do
    let (item, ts) ← if endsItem ts ∨ endsBlockValue ts then some (missing, ts)
      else node true false fuel ts
    let (items, ts) ← dashItems fuel ts
    return (item :: items, ts)
  | _ + 1, ts => some ([], ts)

/-- The entries of a block map up to its end. -/
def blockEntries : Nat → List Token → Option (List (Tree × Tree) × List Token)
  | 0, _ => none
  | fuel + 1, .key :: ts => do
    let (key, ts) ← if endsBlockValue ts then some (missing, ts) else node true true fuel ts
    let (value, ts) ← blockValue fuel ts
    let (entries, ts) ← blockEntries fuel ts
    return ((key, value) :: entries, ts)
  | _ + 1, .blockEnd :: ts => some ([], ts)
  | _ + 1, _ => none

/-- The value behind the key of a block map. -/
def blockValue : Nat → List Token → Option (Tree × List Token)
  | 0, _ => none
  | fuel + 1, .value :: ts =>
    if endsBlockValue ts then some (missing, ts) else node true true fuel ts
  | _ + 1, ts => some (missing, ts)

/-- The items of a flow list up to its end.  An item with a colon is a map of one entry; when its
    key is left out, the token behind the key mark is passed over. -/
def flowItems : Nat → Bool → List Token → Option (List Tree × List Token)
  | 0, _, _ => none
  | _ + 1, _, .flowListEnd :: ts => some ([], ts)
  | fuel + 1, first, ts => do
    match ← comma first ts with
    | .key :: ts => do
      let (key, ts) ← if valueFollows ts ∨ endsListValue ts then some (missing, ts.tail)
        else node false false fuel ts
      let (value, ts) ← match ts with
        | .value :: ts => if endsListValue ts then some (missing, ts) else node false false fuel ts
        | _ => some (missing, ts)
      let (items, ts) ← flowItems fuel false ts
      return (.map .none [(key, value)] :: items, ts)
    | .flowListEnd :: ts => return ([], ts)
    | ts => do
      let (item, ts) ← node false false fuel ts
      let (items, ts) ← flowItems fuel false ts
      return (item :: items, ts)

/-- The entries of a flow map up to its end.  A key without colon has an empty value. -/
def flowEntries : Nat → Bool → List Token → Option (List (Tree × Tree) × List Token)
  | 0, _, _ => none
  | _ + 1, _, .flowMapEnd :: ts => some ([], ts)
  | fuel + 1, first, ts => do
    match ← comma first ts with
    | .key :: ts => do
      let (key, ts) ← if valueFollows ts ∨ endsMapValue ts then some (missing, ts)
        else node false false fuel ts
      let (value, ts) ← match ts with
        | .value :: ts => if endsMapValue ts then some (missing, ts) else node false false fuel ts
        | _ => some (missing, ts)
      let (entries, ts) ← flowEntries fuel false ts
      return ((key, value) :: entries, ts)
    | .flowMapEnd :: ts => return ([], ts)
    | ts => do
      let (key, ts) ← node false false fuel ts
      let (entries, ts) ← flowEntries fuel false ts
      return ((key, missing) :: entries, ts)

end

/-! ## §4. Documents -/

/-- The directives in front of a document: whether a version was declared, and the handles. -/
def directives (versioned : Bool) (handles : List (String × String)) :
    List Token → Option (List (String × String) × List Token)
  | .version major minor :: rest =>
    if versioned ∨ major ≠ 1 ∨ (minor ≠ 1 ∧ minor ≠ 2) then none
    else directives true handles rest
  | .handle name replacement :: rest =>
    if (handles.lookup name).isSome then none
    else directives versioned (handles ++ [(name, replacement)]) rest
  | rest => some (handles, rest)

/-- Whether the tokens begin with a directive or the mark of a document. -/
def startsDocument : List Token → Bool
  | .version _ _ :: _ => true
  | .handle _ _ :: _ => true
  | .documentStart :: _ => true
  | _ => false

/-- Whether a document that has begun is empty. -/
def endsDocument : List Token → Bool
  | .documentEnd :: _ => true
  | [] => true
  | ts => startsDocument ts

/-- Whether nothing but end marks is left. -/
def onlyEndMarks (ts : List Token) : Bool := ts.all fun t => t = .documentEnd

/-- The root behind the beginning of a document. -/
def root (ts : List Token) : Option Tree := do
  let (t, rest) ← if endsDocument ts then some (missing, ts)
    else node true false (2 * ts.length + 2) ts
  if onlyEndMarks rest then some t else none

end Tree

/-- The document that tokens form. -/
def Document.ofTokens? (ts : List Token) : Option Document :=
  if ts.isEmpty then some ⟨[], none⟩
  else if Tree.startsDocument ts then
    match Tree.directives false [] ts with
    | some (handles, .documentStart :: rest) => (Tree.root rest).map fun t => ⟨handles, some t⟩
    | _ => none
  else if ts.head? = some .documentEnd then none
  else (Tree.root ts).map fun t => ⟨[], some t⟩

/-- The document of a text. -/
def Document.parse? (s : String) : Option Document := tokens? s >>= Document.ofTokens?

end ApiMethods.Yaml
