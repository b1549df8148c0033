import ContainerTasks.Yaml.Cursor

/-! # Scalars

The texts of a document as they are written: plain, between single or double
quotes, or as an indented block, literal or folded. Every reader takes a cursor
at the start of a scalar and gives its text and the cursor behind it. Loops run
on fuel of one more than the characters left, since each round moves on.
-/

namespace ContainerTasks.Yaml

/-- How a scalar is written. -/
inductive Style
  | plain
  | quoted
  | block
deriving DecidableEq, Repr

/-- Blanks and breaks between words: the blanks before the first break, the first
break, and the breaks after it. `broken` is set once a line has been broken. -/
structure Gap where
  blanks : List Char := []
  first : List Char := []
  more : List Char := []
  broken : Bool := false
deriving Repr

namespace Gap

/-- What a gap stands for: its blanks, or a space for a single newline, or the
breaks after a newline, or all breaks after another first break. -/
def text (gap : Gap) : List Char :=
  if gap.broken then
    if gap.first = ['\n'] then
      if gap.more.isEmpty then [' '] else gap.more
    else gap.first ++ gap.more
  else gap.blanks

end Gap

/-- Reads blanks and breaks. Where `limit` is given, a tab at the start of a line
before that column is refused. -/
def readGap (limit : Option Nat) : Nat → Gap → Cursor → Option (Gap × Cursor)
  | 0, gap, cursor => some (gap, cursor)
  | fuel + 1, gap, cursor =>
    match cursor.rest with
    | [] => some (gap, cursor)
    | c :: _ =>
      if isBlank c then
        if gap.broken then
          if c == '\t' && limit.any (cursor.column < ·) then none
          else readGap limit fuel gap (cursor.skip 1)
        else readGap limit fuel { gap with blanks := gap.blanks ++ [c] } (cursor.skip 1)
      else if isBreak c then
        let (lineBreak, cursor) := cursor.takeBreak
        if gap.broken then readGap limit fuel { gap with more := gap.more ++ lineBreak } cursor
        else readGap limit fuel { gap with blanks := [], first := lineBreak, broken := true } cursor
      else some (gap, cursor)

/-! ## Plain scalars -/

/-- Whether a plain scalar ends before what follows. Between brackets it ends at
punctuation too. -/
def endsPlain (inFlow : Bool) : List Char → Bool
  | [] => true
  | c :: rest =>
    !isInk c || (c == ':' && endsWord rest) ||
      (inFlow && (c == ',' || c == '[' || c == ']' || c == '\x7b' || c == '\x7d'))

/-- A colon that is followed by punctuation and so belongs to no scalar. -/
def isStrayColon : List Char → Bool
  | ':' :: c :: _ =>
    c == ',' || c == '?' || c == '[' || c == ']' || c == '\x7b' || c == '\x7d'
  | _ => false

/-- Reads the characters of a plain scalar up to a gap or its end. -/
def readPlainWord (inFlow : Bool) : List Char → Option (List Char)
  | [] => some []
  | c :: rest =>
    if isInk c && inFlow && isStrayColon (c :: rest) then none
    else if endsPlain inFlow (c :: rest) then some []
    else (readPlainWord inFlow rest).map (c :: ·)

/-- Reads a plain scalar whose lines after the first must reach column `indent`,
unless it stands between brackets. `text` is what was read before `gap`. Gives
the text, the cursor, and whether the scalar was followed by a line break. -/
def readPlainFrom (inFlow : Bool) (indent : Nat) :
    Nat → List Char → Gap → Cursor → Option (List Char × Cursor × Bool)
  | 0, _, _, _ => none
  | fuel + 1, text, gap, cursor =>
    if cursor.atBoundary || cursor.peek == some '#' then some (text, cursor, gap.broken)
    else
      match readPlainWord inFlow cursor.rest with
      | none => none
      | some word =>
        let (text, gap) := if word.isEmpty then (text, gap) else (text ++ gap.text ++ word, {})
        let cursor := cursor.skip word.length
        match cursor.rest with
        | [] => some (text, cursor, gap.broken)
        | c :: _ =>
          if isInk c then some (text, cursor, gap.broken)
          else
            match readGap (some indent) (cursor.rest.length + 1) gap cursor with
            | none => none
            | some (gap, cursor) =>
              if !inFlow && cursor.column < indent then some (text, cursor, gap.broken)
              else readPlainFrom inFlow indent fuel text gap cursor

/-- Reads a plain scalar. -/
def readPlain (inFlow : Bool) (indent : Nat) (cursor : Cursor) :
    Option (List Char × Cursor × Bool) :=
  readPlainFrom inFlow indent (cursor.rest.length + 1) [] {} cursor

/-! ## Quoted scalars -/

/-- The character a backslash and a letter stand for. -/
def escape? (c : Char) : Option Char :=
  match c with
  | '0' => some '\x00'
  | 'a' => some '\x07'
  | 'b' => some '\x08'
  | 't' | '\t' => some '\t'
  | 'n' => some '\n'
  | 'v' => some '\x0b'
  | 'f' => some '\x0c'
  | 'r' => some '\r'
  | 'e' => some '\x1b'
  | ' ' => some ' '
  | '"' => some '"'
  | '/' => some '/'
  | '\\' => some '\\'
  | 'N' => some '\x85'
  | '_' => some '\xa0'
  | 'L' => some '\u2028'
  | 'P' => some '\u2029'
  | _ => none

/-- How many digits of base sixteen follow a backslash and a letter. -/
def escapeLength? (c : Char) : Option Nat :=
  match c with
  | 'x' => some 2
  | 'u' => some 4
  | 'U' => some 8
  | _ => none

/-- The value of a digit in base sixteen. -/
def hexValue? (c : Char) : Option Nat :=
  if '0' ≤ c && c ≤ '9' then some (c.toNat - 48)
  else if 'a' ≤ c && c ≤ 'f' then some (c.toNat - 87)
  else if 'A' ≤ c && c ≤ 'F' then some (c.toNat - 55)
  else none

/-- The character with a number, unless the number is a surrogate or too large. -/
def charOfNat? (n : Nat) : Option Char :=
  if (0xD800 ≤ n && n ≤ 0xDFFF) || 0x10FFFF < n then none else some (Char.ofNat n)

/-- A character written as `count` digits of base sixteen. -/
def hexChar? (count : Nat) (chars : List Char) : Option Char := do
  let ds := chars.take count
  if ds.length < count then none
  let n ← ds.foldlM (fun n c => (hexValue? c).map (n * 16 + ·)) 0
  charOfNat? n

/-- What stands at the end of a run of characters inside quotes. -/
inductive QuoteStop
  /-- The closing quote, a gap, or the end of the text. -/
  | here
  /-- A backslash before a line break, which joins the lines. -/
  | joined
deriving DecidableEq, Repr

/-- Reads characters inside quotes up to the closing quote, a gap or the end. -/
def readQuotedWord (double : Bool) :
    Nat → List Char → Cursor → Option (List Char × QuoteStop × Cursor)
  | 0, _, _ => none
  | fuel + 1, text, cursor =>
    match cursor.rest with
    | [] => some (text, .here, cursor)
    | c :: rest =>
      if !isInk c then some (text, .here, cursor)
      else if double then
        if c == '"' then some (text, .here, cursor)
        else if c == '\\' then
          match rest with
          | [] => none
          | d :: digits =>
            if isBreak d then some (text, .joined, ((cursor.skip 1).takeBreak).2)
            else
              match escape? d, escapeLength? d with
              | some e, _ => readQuotedWord double fuel (text ++ [e]) (cursor.skip 2)
              | none, some count =>
                match hexChar? count digits with
                | some e => readQuotedWord double fuel (text ++ [e]) (cursor.skip (2 + count))
                | none => none
              | none, none => none
        else readQuotedWord double fuel (text ++ [c]) (cursor.skip 1)
      else if c == '\'' then
        match rest with
        | '\'' :: _ => readQuotedWord double fuel (text ++ ['\'']) (cursor.skip 2)
        | _ => some (text, .here, cursor)
      else readQuotedWord double fuel (text ++ [c]) (cursor.skip 1)

/-- Reads on inside quotes, behind the opening one. -/
def readQuotedFrom (double : Bool) : Nat → List Char → Cursor → Option (List Char × Cursor)
  | 0, _, _ => none
  | fuel + 1, text, cursor =>
    if cursor.atBoundary || cursor.rest.isEmpty then none
    else
      match readQuotedWord double (cursor.rest.length + 1) text cursor with
      | none => none
      | some (text, stop, cursor) =>
        if stop = .here && cursor.peek == some (if double then '"' else '\'') then
          some (text, cursor.skip 1)
        else
          match readGap none (cursor.rest.length + 1) { broken := stop = .joined } cursor with
          | none => none
          | some (gap, cursor) => readQuotedFrom double fuel (text ++ gap.text) cursor

/-- Reads a scalar between quotes. -/
def readQuoted (double : Bool) (cursor : Cursor) : Option (List Char × Cursor) :=
  readQuotedFrom double (cursor.rest.length + 1) [] (cursor.skip 1)

/-! ## Block scalars -/

/-- What becomes of the line breaks at the end of a block. -/
inductive Chomping
  | strip
  | clip
  | keep
deriving DecidableEq, Repr

/-- Reads the sign that says what becomes of the last line breaks. -/
def chomping? (cursor : Cursor) : Option (Chomping × Cursor) :=
  match cursor.peek with
  | some '+' => some (.keep, cursor.skip 1)
  | some '-' => some (.strip, cursor.skip 1)
  | _ => none

/-- Reads the digit that gives the indentation; zero is refused. -/
def increment (cursor : Cursor) : Option (Nat × Cursor) :=
  match cursor.peek with
  | some c =>
    if c == '0' then none
    else if c.isDigit then some (c.toNat - 48, cursor.skip 1)
    else some (0, cursor)
  | none => some (0, cursor)

/-- Reads the line that opens a block: what becomes of the last line breaks and
the indentation, zero if it is not given. -/
def blockHeader (cursor : Cursor) : Option (Chomping × Nat × Cursor) := do
  let (chomping, step, cursor) ←
    match chomping? cursor with
    | some (chomping, cursor) =>
      (increment cursor).map fun (step, cursor) => (chomping, step, cursor)
    | none => do
      let (step, cursor) ← increment cursor
      match if step = 0 then none else chomping? cursor with
      | some (chomping, cursor) => some (chomping, step, cursor)
      | none => some (Chomping.clip, step, cursor)
  let cursor := cursor.skipWhile isBlank
  let cursor := if cursor.peek == some '#' then cursor.skipWhile (!isBreak ·) else cursor
  if endsLine cursor.rest then some (chomping, step, cursor.takeBreak.2) else none

/-- Reads empty lines and the indentation of the line after them. `indent` is
zero as long as it is not known; then it is found as the largest indentation
seen, at least `least`. Gives the breaks and the indentation. -/
def blockBreaks (least : Nat) :
    Nat → (indent widest : Nat) → List Char → Cursor → Option (List Char × Nat × Cursor)
  | 0, _, _, _, _ => none
  | fuel + 1, indent, widest, breaks, cursor =>
    let spaces := (cursor.rest.takeWhile (· == ' ')).length
    let cursor := cursor.skip (if indent = 0 then spaces else min spaces (indent - cursor.column))
    let widest := max widest cursor.column
    if (indent = 0 || cursor.column < indent) && cursor.peek == some '\t' then none
    else if cursor.rest.isEmpty || !endsLine cursor.rest then
      some (breaks, if indent = 0 then max widest (max least 1) else indent, cursor)
    else
      let (lineBreak, cursor) := cursor.takeBreak
      blockBreaks least fuel indent widest (breaks ++ lineBreak) cursor

/-- Whether a blank stands here. -/
def startsBlank (cursor : Cursor) : Bool :=
  match cursor.rest with
  | c :: _ => isBlank c
  | [] => false

/-- Reads the lines of a block. `pending` is the break behind the last line,
`breaks` those of the empty lines after it, and `wasBlank` says whether that line
began with a blank. A folded block turns a single break between lines that do
not begin with blanks into a space. -/
def blockLines (folded : Bool) (indent : Nat) : Nat → (text pending breaks : List Char) →
    (wasBlank : Bool) → Cursor → Option (List Char × List Char × List Char × Cursor)
  | 0, _, _, _, _, _ => none
  | fuel + 1, text, pending, breaks, wasBlank, cursor =>
    if cursor.column != indent || cursor.rest.isEmpty then some (text, pending, breaks, cursor)
    else
      let nowBlank := startsBlank cursor
      let joint :=
        if folded && pending == ['\n'] && !wasBlank && !nowBlank then
          if breaks.isEmpty then [' '] else []
        else pending
      let (line, cursor) := cursor.takeWhile (!isBreak ·)
      let text := text ++ joint ++ breaks ++ line
      let (pending, cursor) := cursor.takeBreak
      match blockBreaks 0 (cursor.rest.length + 1) indent 0 [] cursor with
      | none => none
      | some (breaks, _, cursor) =>
        blockLines folded indent fuel text pending breaks nowBlank cursor

/-- Reads a block scalar behind its indicator. `parent` is the indentation of what
the block belongs to, none at the outermost level. -/
def readBlock (folded : Bool) (parent : Option Nat) (cursor : Cursor) :
    Option (List Char × Cursor) := do
  let (chomping, step, cursor) ← blockHeader (cursor.skip 1)
  let given := if step = 0 then 0 else parent.getD 0 + step
  let least := match parent with
    | none => 0
    | some indent => indent + 1
  let (breaks, indent, cursor) ← blockBreaks least (cursor.rest.length + 1) given 0 [] cursor
  let (text, pending, breaks, cursor) ←
    blockLines folded indent (cursor.rest.length + 1) [] [] breaks false cursor
  match chomping with
  | .strip => some (text, cursor)
  | .clip => some (text ++ pending, cursor)
  | .keep => some (text ++ pending ++ breaks, cursor)

end ContainerTasks.Yaml
