import ContainerTasks.Daemon.Exchange
import ContainerTasks.Daemon.Refusal
import ContainerTasks.Json.Fields

/-! # What answers deliver

An answer with a good status delivers its body; any other status is a trouble with
what the body says about it. A body may be one JSON value, or a sequence of lines
with an object on each.
-/

namespace ContainerTasks.Daemon

/-- The body of an answer with a good status. -/
structure Delivery where
  body : Bytes
  /-- Reading breaks off at the end of the body. -/
  isCut : Bool

/-- The trouble that a bad status means. -/
def refusal (status : Nat) (body : Bytes) (isCut : Bool) : Trouble :=
  if isCut then .brokenOff
  else if body.isEmpty then .status status ""
  else
    let text := Text.Utf8.decodeLossy body
    match Refusal.ofChars text with
    | .message message => .status status message
    | .other => .status status (String.ofList text)
    | .malformed => .undecodable

variable {δ α : Type}

/-- Sends a request that is to be answered with a good status. -/
def request (behaviour : Behaviour δ) (request : Request) : Errand δ Delivery := do
  match ← ExceptT.lift (send behaviour request) with
  | .dropped => throw .noConnection
  | .received status body isCut =>
    if StatusCode.isSuccess status then return ⟨body, isCut⟩
    else throw (refusal status body isCut)

/-- Reads a body as text that holds one JSON value. -/
def readJson? (read : Json → Option α) (bytes : Bytes) : Option α :=
  ((Text.Utf8.decode? bytes).bind Json.parseChars?).bind read

/-- Reads what was delivered as one JSON value. -/
def Delivery.json (delivery : Delivery) (read : Json → Option α) : Except Trouble α :=
  if delivery.isCut then .error .brokenOff
  else
    match readJson? read delivery.body with
    | some value => .ok value
    | none => .error .undecodable

/-- A text cut at its first line feed. -/
def cutLine? : Bytes → Option (Bytes × Bytes)
  | [] => none
  | byte :: rest =>
    if byte = 10 then some ([], rest)
    else (cutLine? rest).map fun (line, after) => (byte :: line, after)

theorem length_of_cutLine? {bytes line rest : Bytes} (found : cutLine? bytes = some (line, rest)) :
    rest.length < bytes.length := by
  induction bytes generalizing line with
  | nil => simp [cutLine?] at found
  | cons byte more ih =>
    simp only [cutLine?] at found
    split at found
    · simp only [Option.some.injEq, Prod.mk.injEq] at found
      simp [← found.2]
    · obtain ⟨⟨inner, after⟩, cut, same⟩ := Option.map_eq_some_iff.mp found
      simp only [Prod.mk.injEq] at same
      have shorter := ih (same.2 ▸ cut)
      simp only [List.length_cons]
      omega

/-- Reads the lines that have arrived after the last of a body: what cannot be read is
a trouble, but an empty line may be the last. -/
def readLate (read : Json → Option α) (bytes : Bytes) : List (Except Trouble α) :=
  match found : cutLine? bytes with
  | none =>
    if bytes.isEmpty then []
    else
      match readJson? read bytes with
      | some value => [.ok value]
      | none => [.error .undecodable]
  | some (line, rest) =>
    have _shorter := length_of_cutLine? found
    match readJson? read line with
    | some value => .ok value :: readLate read rest
    | none => if line.isEmpty && rest.isEmpty then [] else [.error .undecodable]
termination_by bytes.length

/-- Reads lines with one value on each. One line end may stand where a value is not
complete yet; the line is then joined with the next one. -/
def readLines (read : Json → Option α) (isCut : Bool) (bytes : Bytes) : List (Except Trouble α) :=
  match found : cutLine? bytes with
  | none =>
    let values :=
      if bytes.isEmpty then []
      else
        match readJson? read bytes with
        | some value => [.ok value]
        | none => if isCut then [] else [.error .undecodable]
    if isCut then values ++ [.error .brokenOff] else values
  | some (line, rest) =>
    have _shorter := length_of_cutLine? found
    match readJson? read line with
    | some value => .ok value :: readLines read isCut rest
    | none => if isCut then [.error .brokenOff] else readLate read (line ++ rest)
termination_by bytes.length

/-- What was delivered, line by line. A trouble comes last. -/
def Delivery.lines (delivery : Delivery) (read : Json → Option α) : List (Except Trouble α) :=
  readLines read delivery.isCut delivery.body

end ContainerTasks.Daemon
