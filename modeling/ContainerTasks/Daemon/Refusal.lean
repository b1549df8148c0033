import ContainerTasks.Json.Parser

/-! # Refusals

A daemon that refuses a request says why in a JSON object with a text named
`message`, or in an array that holds the text. The body is read from its front: it
is of another kind as soon as something has the wrong type, even if it is no JSON
behind that.
-/

namespace ContainerTasks.Daemon

/-- What a body says about a refusal. -/
inductive Refusal
  | message (text : String)
  /-- The body has another form. -/
  | other
  /-- The body is no JSON. -/
  | malformed
deriving DecidableEq, Repr

namespace Refusal

/-- A text at the front and what follows, or what the body is without one. -/
def readText (fuel : Nat) (chars : List Char) : Except Refusal (String × List Char) :=
  match chars with
  | '[' :: _ | '\x7b' :: _ => .error .other
  | _ =>
    match Json.readValue? fuel Json.maxDepth chars with
    | none => .error .malformed
    | some (.string text, rest) => .ok (text, rest)
    | some _ => .error .other

/-- The message if nothing follows it. -/
def atEnd (text : String) (rest : List Char) : Refusal :=
  if (Json.skipSpace rest).isEmpty then .message text else .malformed

/-- Reads the members of an object, given the message among those before. -/
def readMembers : (fuel : Nat) → Option String → List Char → Refusal
  | 0, _, _ => .malformed
  | fuel + 1, found, chars =>
    match chars with
    | '"' :: rest =>
      match Json.stringBody rest with
      | none => .malformed
      | some (key, rest) =>
        match Json.skipSpace rest with
        | ':' :: rest =>
          let value := Json.skipSpace rest
          let read : Except Refusal (Option String × List Char) :=
            if key = "message".toList then
              if found.isSome then .error .other
              else (readText fuel value).map fun (text, rest) => (some text, rest)
            else
              match Json.readValue? fuel Json.maxDepth value with
              | none => .error .malformed
              | some (_, rest) => .ok (found, rest)
          match read with
          | .error refusal => refusal
          | .ok (found, rest) =>
            match Json.skipSpace rest with
            | ',' :: rest => readMembers fuel found (Json.skipSpace rest)
            | '\x7d' :: rest =>
              match found with
              | none => .other
              | some text => atEnd text rest
            | _ => .malformed
        | _ => .malformed
    | _ => .malformed

/-- Reads the body of a refusal. -/
def ofChars (chars : List Char) : Refusal :=
  let fuel := 2 * chars.length + 2
  match Json.skipSpace chars with
  | [] => .malformed
  | '[' :: rest =>
    match Json.skipSpace rest with
    | [] => .malformed
    | ']' :: _ => .other
    | rest =>
      match readText fuel rest with
      | .error refusal => refusal
      | .ok (text, rest) =>
        match Json.skipSpace rest with
        | ']' :: rest => atEnd text rest
        | _ => .malformed
  | '\x7b' :: rest =>
    match Json.skipSpace rest with
    | '\x7d' :: _ => .other
    | rest => readMembers fuel none rest
  | rest =>
    match readText fuel rest with
    | .error refusal => refusal
    | .ok _ => .other

end Refusal

end ContainerTasks.Daemon
