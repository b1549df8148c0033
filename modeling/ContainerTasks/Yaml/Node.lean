import ContainerTasks.Yaml.Token

/-! # Nodes

The structure of a document: scalars, sequences, mappings, and references to
anchored nodes. A value that is not written is an empty plain scalar. An anchor
is known from the place where it is set, also inside its own node. Each name
that is set for the first time gets a new number, and so does each name that is
set again; a number belongs to the last node that got it.
-/

namespace ContainerTasks.Yaml

/-- A node with its tag, if it has one. -/
inductive Node
  | scalar (tag : Option Tag) (style : Style) (text : List Char)
  | sequence (tag : Option Tag) (items : List Node)
  | mapping (tag : Option Tag) (pairs : List (Node × Node))
  | anchored (number : Nat) (node : Node)
  | reference (number : Nat)
deriving Repr, Inhabited

namespace Node

/-- The node where nothing is written. -/
def empty : Node := scalar none .plain []

end Node

/-- Where the reading of nodes stands: the tokens left and the anchors set. -/
structure Rest where
  tokens : List Token
  anchors : List (List Char × Nat) := []

namespace Rest

/-- Moves over one token. -/
def drop (rest : Rest) : Rest :=
  { rest with tokens := rest.tokens.tail }

/-- The next token. -/
def peek (rest : Rest) : Option Token :=
  rest.tokens.head?

/-- Whether the next token is one of some. -/
def isAt (rest : Rest) (tokens : List Token) : Bool :=
  match rest.tokens with
  | [] => false
  | token :: _ => tokens.contains token

/-- Sets an anchor: its number is how many names are known. -/
def setAnchor (rest : Rest) (name : List Char) : Nat × Rest :=
  let number := rest.anchors.length
  let others := rest.anchors.filter fun (known, _) => known != name
  (number, { rest with anchors := (name, number) :: others })

end Rest

/-- What stands in front of a node. -/
structure Properties where
  anchor : Option (List Char) := none
  tag : Option Tag := none

/-- Reads an anchor and a tag in any order. -/
def readProperties (handles : TagHandles) :
    Nat → Properties → Rest → Option (Properties × Rest)
  | 0, properties, rest => some (properties, rest)
  | fuel + 1, properties, rest =>
    match rest.peek with
    | some (.anchor name) =>
      if properties.anchor.isNone then
        readProperties handles fuel { properties with anchor := some name } rest.drop
      else some (properties, rest)
    | some (.tag handle suffix) =>
      if properties.tag.isNone then
        match Tag.ofHandle? handles handle suffix with
        | none => none
        | some tag => readProperties handles fuel { properties with tag := some tag } rest.drop
      else some (properties, rest)
    | _ => some (properties, rest)

/-- The tag of a scalar that is written. The lone exclamation mark says nothing about
one. -/
def scalarTag (tag : Option Tag) : Option Tag :=
  if tag = some [Tag.mark] then none else tag

mutual

/-- Reads a node. `block` says whether block collections may occur here, `loose`
whether items with hyphens may stand without further indentation. -/
def readNode (handles : TagHandles) : Nat → (block loose : Bool) → Rest → Option (Node × Rest)
  | 0, _, _, _ => none
  | fuel + 1, block, loose, rest =>
    match rest.peek with
    | some (.reference name) =>
      match rest.anchors.lookup name with
      | none => none
      | some number => some (.reference number, rest.drop)
    | _ =>
      match readProperties handles 2 {} rest with
      | none => none
      | some (properties, rest) =>
        match properties.anchor with
        | none => readContent handles fuel block loose properties.tag false rest
        | some name =>
          let (number, rest) := rest.setAnchor name
          (readContent handles fuel block loose properties.tag true rest).map fun (node, rest) =>
            (.anchored number node, rest)

/-- Reads what follows the anchor and the tag of a node. -/
def readContent (handles : TagHandles) : Nat → (block loose : Bool) → Option Tag →
    (hasAnchor : Bool) → Rest → Option (Node × Rest)
  | 0, _, _, _, _, _ => none
  | fuel + 1, block, loose, tag, hasAnchor, rest =>
    let sequence (read : Option (List Node × Rest)) : Option (Node × Rest) :=
      read.map fun (items, rest) => (.sequence tag items, rest)
    let mapping (read : Option (List (Node × Node) × Rest)) : Option (Node × Rest) :=
      read.map fun (pairs, rest) => (.mapping tag pairs, rest)
    match rest.peek with
    | some (.scalar style text) => some (.scalar (scalarTag tag) style text, rest.drop)
    | some .flowSequence => sequence (readFlowItems handles fuel true rest.drop)
    | some .flowMapping => mapping (readFlowPairs handles fuel true rest.drop)
    | token =>
      if loose && token == some .blockEntry then sequence (readLooseItems handles fuel rest)
      else if block && token == some .blockSequence then
        sequence (readBlockItems handles fuel rest.drop)
      else if block && token == some .blockMapping then
        mapping (readBlockPairs handles fuel rest.drop)
      else if hasAnchor || tag.isSome then some (.scalar tag .plain [], rest)
      else none

/-- Reads items with hyphens that are indented further, up to their end. -/
def readBlockItems (handles : TagHandles) : Nat → Rest → Option (List Node × Rest)
  | 0, _ => none
  | fuel + 1, rest =>
    match rest.peek with
    | some .blockEntry =>
      match readUnless handles fuel [.blockEntry, .blockEnd] false rest.drop with
      | none => none
      | some (item, rest) =>
        (readBlockItems handles fuel rest).map fun (items, rest) => (item :: items, rest)
    | some .blockEnd => some ([], rest.drop)
    | _ => none

/-- Reads items with hyphens as long as there are any. -/
def readLooseItems (handles : TagHandles) : Nat → Rest → Option (List Node × Rest)
  | 0, _ => none
  | fuel + 1, rest =>
    match rest.peek with
    | some .blockEntry =>
      match readUnless handles fuel [.blockEntry, .key, .value, .blockEnd] false rest.drop with
      | none => none
      | some (item, rest) =>
        (readLooseItems handles fuel rest).map fun (items, rest) => (item :: items, rest)
    | _ => some ([], rest)

/-- Reads a node in a block, or the empty node if one of some tokens is next. -/
def readUnless (handles : TagHandles) : Nat → List Token → (loose : Bool) → Rest →
    Option (Node × Rest)
  | 0, _, _, _ => none
  | fuel + 1, ends, loose, rest =>
    if rest.isAt ends then some (.empty, rest) else readNode handles fuel true loose rest

/-- Reads the pairs of a block up to its end. -/
def readBlockPairs (handles : TagHandles) : Nat → Rest → Option (List (Node × Node) × Rest)
  | 0, _ => none
  | fuel + 1, rest =>
    match rest.peek with
    | some .key =>
      let ends := [.key, .value, .blockEnd]
      match readUnless handles fuel ends true rest.drop with
      | none => none
      | some (key, rest) =>
        let read :=
          if rest.peek == some .value then readUnless handles fuel ends true rest.drop
          else some (.empty, rest)
        match read with
        | none => none
        | some (value, rest) =>
          (readBlockPairs handles fuel rest).map fun (pairs, rest) => ((key, value) :: pairs, rest)
    | some .blockEnd => some ([], rest.drop)
    | _ => none

/-- Reads a node between brackets, or the empty node if one of some tokens is
next. -/
def readFlowUnless (handles : TagHandles) : Nat → List Token → Rest → Option (Node × Rest)
  | 0, _, _ => none
  | fuel + 1, ends, rest =>
    if rest.isAt ends then some (.empty, rest) else readNode handles fuel false false rest

/-- Reads the items between square brackets. An item may be a pair, which stands
for a mapping of that pair alone. -/
def readFlowItems (handles : TagHandles) : Nat → (first : Bool) → Rest →
    Option (List Node × Rest)
  | 0, _, _ => none
  | fuel + 1, first, rest =>
    if rest.peek == some .flowSequenceEnd then some ([], rest.drop)
    else if !first && rest.peek != some .flowEntry then none
    else
      let rest := if first then rest else rest.drop
      if rest.peek == some .flowSequenceEnd then some ([], rest.drop)
      else
        let read :=
          if rest.peek == some .key then
            (readFlowPair handles fuel rest.drop).map fun (pair, rest) =>
              (.mapping none [pair], rest)
          else readNode handles fuel false false rest
        match read with
        | none => none
        | some (item, rest) =>
          (readFlowItems handles fuel false rest).map fun (items, rest) => (item :: items, rest)

/-- Reads a pair between square brackets, behind the mark for its key. If the key
is not written, the token in its place is passed over. -/
def readFlowPair (handles : TagHandles) : Nat → Rest → Option ((Node × Node) × Rest)
  | 0, _ => none
  | fuel + 1, rest =>
    let read :=
      if rest.isAt [.value, .flowEntry, .flowSequenceEnd] then some (.empty, rest.drop)
      else readNode handles fuel false false rest
    match read with
    | none => none
    | some (key, rest) =>
      if rest.peek == some .value then
        (readFlowUnless handles fuel [.flowEntry, .flowSequenceEnd] rest.drop).map
          fun (value, rest) => ((key, value), rest)
      else some ((key, .empty), rest)

/-- Reads the pairs between braces. A node without colon is a key without value. -/
def readFlowPairs (handles : TagHandles) : Nat → (first : Bool) → Rest →
    Option (List (Node × Node) × Rest)
  | 0, _, _ => none
  | fuel + 1, first, rest =>
    if rest.peek == some .flowMappingEnd then some ([], rest.drop)
    else if !first && rest.peek != some .flowEntry then none
    else
      let rest := if first then rest else rest.drop
      if rest.peek == some .flowMappingEnd then some ([], rest.drop)
      else
        let read :=
          if rest.peek == some .key then
            match readFlowUnless handles fuel [.value, .flowEntry, .flowMappingEnd] rest.drop with
            | none => none
            | some (key, rest) =>
              if rest.peek == some .value then
                (readFlowUnless handles fuel [.flowEntry, .flowMappingEnd] rest.drop).map
                  fun (value, rest) => ((key, value), rest)
              else some ((key, .empty), rest)
          else
            (readNode handles fuel false false rest).map fun (key, rest) => ((key, .empty), rest)
        match read with
        | none => none
        | some (pair, rest) =>
          (readFlowPairs handles fuel false rest).map fun (pairs, rest) => (pair :: pairs, rest)

end

/-- The directives of a document. -/
structure Directives where
  hasVersion : Bool := false
  handles : TagHandles := []

/-- Reads directives. The version must be 1.1 or 1.2 and be given once; a handle
may be set once. -/
def readDirectives : Directives → List Token → Option (Directives × List Token)
  | directives, .version major minor :: tokens =>
    if directives.hasVersion || major != 1 || (minor != 1 && minor != 2) then none
    else readDirectives { directives with hasVersion := true } tokens
  | directives, .tagHandle handle expansion :: tokens =>
    if (directives.handles.lookup handle).isSome then none
    else
      readDirectives { directives with handles := directives.handles ++ [(handle, expansion)] }
        tokens
  | directives, tokens => some (directives, tokens)

/-- Whether nothing but ends of the document is left. -/
def onlyEnds (tokens : List Token) : Bool :=
  tokens.all (· == .documentEnd)

/-- The node of a stream that holds one document, or none if the stream holds
nothing. -/
def readDocument (tokens : List Token) : Option (Option Node) :=
  match tokens with
  | [] => some none
  | _ => do
    let (directives, rest) ← readDirectives {} tokens
    let handles := directives.handles ++ Tag.defaultHandles
    let hasDirectives := directives.hasVersion || !directives.handles.isEmpty
    let fuel := 4 * tokens.length + 4
    match rest with
    | .documentStart :: content =>
      if onlyEnds content then some (some .empty)
      else
        let (node, rest) ← readNode handles fuel true false { tokens := content }
        if onlyEnds rest.tokens then some (some node) else none
    | _ =>
      if hasDirectives then none
      else
        let (node, rest) ← readNode handles fuel true false { tokens := rest }
        if onlyEnds rest.tokens then some (some node) else none

end ContainerTasks.Yaml
