import ContainerTasks.Yaml.Tag

/-! # Tokens

The marks and texts a document is made of. A word turns out to be a key only when
its colon is met, so the scanner remembers where keys may have begun and puts the
mark for a key there afterwards. Indentation becomes explicit: a block opens when
a line is indented further than its surroundings, and closes when a later line is
not.
-/

namespace ContainerTasks.Yaml

/-- A piece of a document. -/
inductive Token
  | version (major minor : Nat)
  | tagHandle (handle : List Char) (expansion : Bytes)
  | documentStart
  | documentEnd
  | blockSequence
  | blockMapping
  | blockEnd
  | flowSequence
  | flowSequenceEnd
  | flowMapping
  | flowMappingEnd
  | blockEntry
  | flowEntry
  | key
  | value
  | reference (name : List Char)
  | anchor (name : List Char)
  | tag (handle : List Char) (suffix : Bytes)
  | scalar (style : Style) (text : List Char)
deriving DecidableEq, Repr

/-- A place where a key may have begun. A required one is at the indentation of
its block, where nothing but a key can stand. -/
structure KeyPlace where
  token : Nat
  index : Nat
  line : Nat
  column : Nat
  isRequired : Bool
deriving Repr

/-- A scan in progress. -/
structure Scan where
  cursor : Cursor
  tokens : Array Token := #[]
  /-- Whether a key may begin here. -/
  keyAllowed : Bool := true
  /-- The last place where a key may have begun: for the present level, then for
  the levels around it. -/
  place : Option KeyPlace := none
  outerPlaces : List (Option KeyPlace) := []
  /-- The indentation of the block, then of the blocks around it; there is none
  outside all blocks. -/
  indents : List Nat := []

namespace Scan

/-- Whether the scan is between brackets. -/
def inFlow (scan : Scan) : Bool :=
  !scan.outerPlaces.isEmpty

/-- Adds a token. -/
def push (scan : Scan) (token : Token) : Scan :=
  { scan with tokens := scan.tokens.push token }

/-- Adds a token and moves over its characters. -/
def pushSkip (scan : Scan) (token : Token) (count : Nat) : Scan :=
  { scan with tokens := scan.tokens.push token, cursor := scan.cursor.skip count }

/-- Whether a column is indented further than the block. -/
def isDeeper (scan : Scan) (column : Nat) : Bool :=
  match scan.indents with
  | [] => true
  | indent :: _ => indent < column

/-- The least column of what belongs to the block. -/
def innerColumn (scan : Scan) : Nat :=
  match scan.indents with
  | [] => 0
  | indent :: _ => indent + 1

/-- Opens a block at a column that is indented further, before the token at
`position`. -/
def openBlock (scan : Scan) (column position : Nat) (token : Token) : Scan :=
  if scan.inFlow || !scan.isDeeper column then scan
  else
    { scan with
      indents := column :: scan.indents
      tokens := (scan.tokens.toList.insertIdx position token).toArray }

/-- Closes blocks that are indented further than `keep` allows. -/
def closeWhile (tokens : Array Token) (closes : Nat → Bool) : List Nat → List Nat × Array Token
  | [] => ([], tokens)
  | indent :: outer =>
    if closes indent then closeWhile (tokens.push .blockEnd) closes outer
    else (indent :: outer, tokens)

/-- Closes the blocks that are indented further than a column. -/
def closeBlocks (scan : Scan) (column : Nat) : Scan :=
  if scan.inFlow then scan
  else
    let (indents, tokens) := closeWhile scan.tokens (column < ·) scan.indents
    { scan with indents, tokens }

/-- Closes all blocks. -/
def closeAllBlocks (scan : Scan) : Scan :=
  if scan.inFlow then scan
  else
    let (indents, tokens) := closeWhile scan.tokens (fun _ => true) scan.indents
    { scan with indents, tokens }

/-- Gives up the place where a key may have begun; a required one must not be
given up. -/
def dropPlace (scan : Scan) : Option Scan :=
  match scan.place with
  | some place => if place.isRequired then none else some { scan with place := none }
  | none => some scan

/-- Notes that a key may begin here. -/
def savePlace (scan : Scan) : Option Scan :=
  if scan.keyAllowed then do
    let cursor := scan.cursor
    let isRequired := !scan.inFlow &&
      match scan.indents with
      | [] => false
      | indent :: _ => indent = cursor.column
    let scan ← scan.dropPlace
    return { scan with
      place := some ⟨scan.tokens.size, cursor.index, cursor.line, cursor.column, isRequired⟩ }
  else some scan

/-- A key must end on its line, within 1024 characters. -/
def expireOne (cursor : Cursor) (place : Option KeyPlace) : Option (Option KeyPlace) :=
  match place with
  | none => some none
  | some found =>
    if found.line < cursor.line || found.index + 1024 < cursor.index then
      if found.isRequired then none else some none
    else some place

/-- Gives up all places whose keys would be too long. -/
def expirePlaces (scan : Scan) : Option Scan := do
  let place ← expireOne scan.cursor scan.place
  let outerPlaces ← scan.outerPlaces.mapM (expireOne scan.cursor)
  return { scan with place, outerPlaces }

/-- Moves to the next token over blanks, comments and line breaks. Tabs are no
indentation: they are skipped only where no key may begin. -/
def toNextToken : Nat → Scan → Scan
  | 0, scan => scan
  | fuel + 1, scan =>
    let cursor := scan.cursor
    let cursor :=
      if cursor.column == 0 && cursor.peek == some '\ufeff' then cursor.skip 1 else cursor
    let skipTabs := scan.inFlow || !scan.keyAllowed
    let cursor := cursor.skipWhile fun c => c == ' ' || (skipTabs && c == '\t')
    let cursor := if cursor.peek == some '#' then cursor.skipWhile (!isBreak ·) else cursor
    if cursor.rest.isEmpty || !endsLine cursor.rest then { scan with cursor }
    else
      toNextToken fuel { scan with
        cursor := cursor.takeBreak.2
        keyAllowed := scan.keyAllowed || !scan.inFlow }

/-! ## Directives, anchors and tags -/

/-- A number of at most nine digits. -/
def number? (cursor : Cursor) : Option (Nat × Cursor) :=
  let (ds, cursor) := cursor.takeWhile Char.isDigit
  if ds.isEmpty || 9 < ds.length then none
  else some (ds.foldl (fun n c => n * 10 + (c.toNat - 48)) 0, cursor)

/-- Reads the handle of a tag: an exclamation mark, or a name between two. -/
def tagHandleText (cursor : Cursor) : Option (List Char × Cursor) :=
  match cursor.peek with
  | some '!' =>
    let (name, cursor) := (cursor.skip 1).takeWhile isNameChar
    if cursor.peek == some '!' then some ('!' :: name ++ ['!'], cursor.skip 1)
    else some ('!' :: name, cursor)
  | _ => none

/-- Reads a tag. Between angle brackets it is given in full. An exclamation mark with
nothing behind it is a tag in full as well. -/
def readTag (inFlow : Bool) (cursor : Cursor) : Option (Token × Cursor) := do
  let fuel := cursor.rest.length + 1
  let (token, cursor) ←
    match cursor.rest with
    | '!' :: '<' :: _ => do
      let (bytes, cursor) ← readTagBytes true fuel [] (cursor.skip 2)
      if bytes.isEmpty || cursor.peek != some '>' then none
      else some (Token.tag [] (beforeZero bytes), cursor.skip 1)
    | _ => do
      let (handle, cursor) ← tagHandleText cursor
      if 1 < handle.length && handle.getLast? == some '!' then do
        let (bytes, cursor) ← readTagBytes false fuel [] cursor
        if bytes.isEmpty then none else some (Token.tag handle (beforeZero bytes), cursor)
      else do
        let (bytes, cursor) ← readTagBytes false fuel (Text.Utf8.encode handle.tail) cursor
        let suffix := beforeZero bytes
        some (if suffix.isEmpty then Token.tag [] [Tag.mark] else Token.tag ['!'] suffix, cursor)
  if endsWord cursor.rest || (inFlow && cursor.peek == some ',') then some (token, cursor) else none

/-- Reads the name of an anchor or of a reference to one. -/
def readName (cursor : Cursor) : Option (List Char × Cursor) :=
  let (name, cursor) := (cursor.skip 1).takeWhile isNameChar
  let ends := endsWord cursor.rest ||
    match cursor.peek with
    | some c => ['?', ':', ',', ']', '\x7d', '%', '@', '\x60'].contains c
    | none => true
  if name.isEmpty || !ends then none else some (name, cursor)

/-- Reads the version that a directive names. -/
def readVersion (cursor : Cursor) : Option (Token × Cursor) := do
  let (major, cursor) ← number? (cursor.skipWhile isBlank)
  if cursor.peek != some '.' then none
  else
    let (minor, cursor) ← number? (cursor.skip 1)
    return (.version major minor, cursor)

/-- Reads the handle that a directive names and what it stands for. -/
def readTagHandle (cursor : Cursor) : Option (Token × Cursor) := do
  let (handle, cursor) ← tagHandleText (cursor.skipWhile isBlank)
  if (1 < handle.length && handle.getLast? != some '!') || !(cursor.peek.any isBlank) then none
  else
    let cursor := cursor.skipWhile isBlank
    let (bytes, cursor) ← readTagBytes true (cursor.rest.length + 1) [] cursor
    if bytes.isEmpty || !endsWord cursor.rest then none
    else some (.tagHandle handle (beforeZero bytes), cursor)

/-- Reads a directive with its line. -/
def readDirective (cursor : Cursor) : Option (Token × Cursor) := do
  let (name, cursor) := (cursor.skip 1).takeWhile isNameChar
  if name.isEmpty || !endsWord cursor.rest then none
  else
    let (token, cursor) ←
      if name = ['Y', 'A', 'M', 'L'] then readVersion cursor
      else if name = ['T', 'A', 'G'] then readTagHandle cursor
      else none
    let cursor := cursor.skipWhile isBlank
    let cursor := if cursor.peek == some '#' then cursor.skipWhile (!isBreak ·) else cursor
    if endsLine cursor.rest then some (token, cursor.takeBreak.2) else none

/-! ## Steps of the scan -/

/-- A line that bounds a document. -/
def boundary (scan : Scan) (token : Token) : Option Scan := do
  let scan ← scan.closeAllBlocks.dropPlace
  return { scan.pushSkip token 3 with keyAllowed := false }

/-- A directive. -/
def directive (scan : Scan) : Option Scan := do
  let scan ← scan.closeAllBlocks.dropPlace
  let (token, cursor) ← readDirective scan.cursor
  return { scan.push token with cursor, keyAllowed := false }

/-- An opening bracket, which may itself begin a key. -/
def openFlow (scan : Scan) (token : Token) : Option Scan := do
  let scan ← scan.savePlace
  return { scan.pushSkip token 1 with
    place := none, outerPlaces := scan.place :: scan.outerPlaces, keyAllowed := true }

/-- A closing bracket. -/
def closeFlow (scan : Scan) (token : Token) : Option Scan := do
  let scan ← scan.dropPlace
  let scan := { scan.pushSkip token 1 with keyAllowed := false }
  return match scan.outerPlaces with
    | [] => scan
    | place :: outerPlaces => { scan with place, outerPlaces }

/-- A comma between brackets. -/
def flowEntry (scan : Scan) : Option Scan := do
  let scan ← scan.dropPlace
  return { scan.pushSkip .flowEntry 1 with keyAllowed := true }

/-- A hyphen before an item. -/
def blockEntry (scan : Scan) : Option Scan :=
  if !scan.inFlow && !scan.keyAllowed then none
  else do
    let scan := scan.openBlock scan.cursor.column scan.tokens.size .blockSequence
    let scan ← scan.dropPlace
    return { scan.pushSkip .blockEntry 1 with keyAllowed := true }

/-- A question mark before a key. -/
def explicitKey (scan : Scan) : Option Scan :=
  if !scan.inFlow && !scan.keyAllowed then none
  else do
    let scan := scan.openBlock scan.cursor.column scan.tokens.size .blockMapping
    let scan ← scan.dropPlace
    return { scan.pushSkip .key 1 with keyAllowed := !scan.inFlow }

/-- A colon before a value. If a key may have begun, it did. -/
def valueMark (scan : Scan) : Option Scan :=
  match scan.place with
  | some place =>
    let scan := { scan with tokens := (scan.tokens.toList.insertIdx place.token .key).toArray }
    let scan := scan.openBlock place.column place.token .blockMapping
    some { scan.pushSkip .value 1 with place := none, keyAllowed := false }
  | none =>
    if !scan.inFlow && !scan.keyAllowed then none
    else
      let scan := scan.openBlock scan.cursor.column scan.tokens.size .blockMapping
      some { scan.pushSkip .value 1 with keyAllowed := !scan.inFlow }

/-- An anchor, a reference or a tag. -/
def property (scan : Scan) (read : Cursor → Option (Token × Cursor)) : Option Scan := do
  let scan ← scan.savePlace
  let (token, cursor) ← read scan.cursor
  return { scan.push token with cursor, keyAllowed := false }

/-- A block scalar. -/
def blockScalar (scan : Scan) (folded : Bool) : Option Scan := do
  let scan ← scan.dropPlace
  let (text, cursor) ← readBlock folded scan.indents.head? scan.cursor
  return { scan.push (.scalar .block text) with cursor, keyAllowed := true }

/-- A scalar between quotes. -/
def quotedScalar (scan : Scan) (double : Bool) : Option Scan := do
  let scan ← scan.savePlace
  let (text, cursor) ← readQuoted double scan.cursor
  return { scan.push (.scalar .quoted text) with cursor, keyAllowed := false }

/-- A plain scalar. A line break behind it allows a key to begin. -/
def plainScalar (scan : Scan) : Option Scan := do
  let scan ← scan.savePlace
  let (text, cursor, broken) ← readPlain scan.inFlow scan.innerColumn scan.cursor
  return { scan.push (.scalar .plain text) with cursor, keyAllowed := broken }

/-- Whether a plain scalar may begin with what follows. -/
def startsPlain (inFlow : Bool) : List Char → Bool
  | [] => false
  | c :: rest =>
    let isIndicator := ['-', '?', ':', ',', '[', ']', '\x7b', '\x7d', '#', '&', '*', '!', '|', '>',
      '\'', '"', '%', '@', '\x60'].contains c
    (isInk c && !isIndicator) ||
      (c == '-' && !(rest.head?.any isBlank)) ||
      (!inFlow && (c == '?' || c == ':') && !endsWord rest)

/-- Reads one token, with the marks that come with it. -/
def next (scan : Scan) : Option Scan := do
  let scan := scan.toNextToken (scan.cursor.rest.length + 1)
  let scan ← scan.expirePlaces
  let scan := scan.closeBlocks scan.cursor.column
  let cursor := scan.cursor
  match cursor.rest with
  | [] => scan.closeAllBlocks.dropPlace
  | c :: rest =>
    if cursor.column == 0 && c == '%' then scan.directive
    else if cursor.atBoundary then
      scan.boundary (if c == '-' then .documentStart else .documentEnd)
    else if c == '[' then scan.openFlow .flowSequence
    else if c == '\x7b' then scan.openFlow .flowMapping
    else if c == ']' then scan.closeFlow .flowSequenceEnd
    else if c == '\x7d' then scan.closeFlow .flowMappingEnd
    else if c == ',' then scan.flowEntry
    else if c == '-' && endsWord rest then scan.blockEntry
    else if c == '?' && (scan.inFlow || endsWord rest) then scan.explicitKey
    else if c == ':' && (scan.inFlow || endsWord rest) then scan.valueMark
    else if c == '*' then
      scan.property fun cursor =>
        (readName cursor).map fun (name, cursor) => (.reference name, cursor)
    else if c == '&' then
      scan.property fun cursor =>
        (readName cursor).map fun (name, cursor) => (.anchor name, cursor)
    else if c == '!' then scan.property (readTag scan.inFlow)
    else if (c == '|' || c == '>') && !scan.inFlow then scan.blockScalar (c == '>')
    else if c == '\'' || c == '"' then scan.quotedScalar (c == '"')
    else if startsPlain scan.inFlow cursor.rest then scan.plainScalar
    else none

/-- Reads tokens to the end of the text. -/
def toEnd : Nat → Scan → Option (List Token)
  | 0, _ => none
  | fuel + 1, scan => do
    let scan ← scan.next
    if scan.cursor.rest.isEmpty then
      let scan ← scan.next
      return scan.tokens.toList
    else toEnd fuel scan

end Scan

/-- The tokens of a document. Each step takes at least one character. -/
def tokens? (chars : List Char) : Option (List Token) :=
  let chars := if chars.head? = some '\ufeff' then chars.tail else chars
  if chars.all isAllowed then Scan.toEnd (chars.length + 1) { cursor := { rest := chars } }
  else none

end ContainerTasks.Yaml
