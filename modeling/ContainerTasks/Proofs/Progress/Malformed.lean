import ContainerTasks.Proofs.Json.Quoting
import ContainerTasks.Proofs.Progress.Plan
import ContainerTasks.Proofs.Text.Utf8

/-! # Malformed lines

A line is malformed if it is no text, if its text is no object whose members have the types
of a line, or if it reports no failure and is an image without an id or an update that cannot
be read (`Malformed`). Just these lines are refused (`readLine_eq_error_iff`), so a response
is read to its end unless it has such a line, and otherwise up to the first of them, with
nothing written for the end and whatever follows (`read_malformed`). The error quotes the
line, and from its text the line is read back. Only an earlier line can keep it from being
reported, one that makes the downloads of a step too great to be added up (`FirstOverflow`).
-/

namespace ContainerTasks.Progress.Response

open Text

/-! ## What a line can hold -/

/-- A member that may be missing or null and is a text otherwise. -/
inductive Gives : Option Json → Option String → Prop
  | missing : Gives none none
  | null : Gives (some .null) none
  | text (text : String) : Gives (some (.string text)) (some text)

/-- The detail of an error with its message, in either of its two forms. -/
inductive Details : Option Json → Option String → Prop
  | missing : Details none none
  | null : Details (some .null) none
  | object {members : List (String × Json)} {message : Option String}
      (gives : Gives (Json.lookup "message" members) message) :
      Details (some (.object members)) message
  | array {item : Json} {message : Option String} (gives : Gives (some item) message) :
      Details (some (.array [item])) message

/-- The report of an image with its id, in either of its two forms. -/
inductive Identifies : Json → String → Prop
  | object {members : List (String × Json)} {id : String}
      (found : Json.lookup "ID" members = some (.string id)) : Identifies (.object members) id
  | array (id : String) : Identifies (.array [.string id]) id

/-- The fields of a line that are read by their types. -/
structure Fields where
  kind : Option String
  stream : Option String
  error : Option String
  detail : Option String

/-- The failure that a line reports. The message of the detail comes first. -/
def Fields.failure (fields : Fields) : Option String :=
  fields.detail.or fields.error

/-- Members that have the types of a line. -/
structure HasFields (members : List (String × Json)) (fields : Fields) : Prop where
  kind : Gives (Json.lookup "id" members) fields.kind
  stream : Gives (Json.lookup "stream" members) fields.stream
  error : Gives (Json.lookup "error" members) fields.error
  detail : Details (Json.lookup "errorDetail" members) fields.detail

/-- What can be wrong with what a line of a kind carries. -/
inductive Unusable (members : List (String × Json)) : (kind : Option String) → Fault → Prop
  | image (noId : ∀ aux id, Json.lookup "aux" members = some aux → ¬ Identifies aux id) :
      Unusable members (some imageKind) .line
  | update (noText : ∀ payload, Json.lookup "aux" members ≠ some (.string payload)) :
      Unusable members (some updateKind) .line
  | payload {payload : String} {cause : DecodeError}
      (found : Json.lookup "aux" members = some (.string payload))
      (unreadable : Record.decode payload = .error cause) :
      Unusable members (some updateKind) (.update cause)

/-- What can be wrong with the members of a line. What a line carries does not matter if it
reports a failure. -/
inductive Faulty (members : List (String × Json)) : Fault → Prop
  | mistyped (mistyped : ∀ fields, ¬ HasFields members fields) : Faulty members .line
  | unusable {fields : Fields} {fault : Fault} (has : HasFields members fields)
      (noFailure : fields.failure = none) (unusable : Unusable members fields.kind fault) :
      Faulty members fault

/-- A line that cannot be understood, with what is wrong with it. -/
inductive Malformed : (line : Bytes) → Fault → Prop
  | garbled {line : Bytes} (noText : ∀ text, Utf8.ofString text ≠ line) : Malformed line .line
  | noObject {line : Bytes} {text : String} (isText : Utf8.ofString text = line)
      (noObject : ∀ members, Json.parse? text ≠ some (.object members)) : Malformed line .line
  | faulty {line : Bytes} {text : String} {members : List (String × Json)} {fault : Fault}
      (isText : Utf8.ofString text = line) (object : Json.parse? text = some (.object members))
      (faulty : Faulty members fault) : Malformed line fault

/-- A line as it is reported: its text between quotes. -/
def reported (line : Bytes) : String :=
  Json.quote (Utf8.toStringLossy line)

/-! ## The lines that are refused -/

section Members

variable {members : List (String × Json)} {fields : Fields}

theorem gives_iff {value : Option Json} {text : Option String} :
    optionalText value = some text ↔ Gives value text := by
  constructor
  · intro read
    unfold optionalText at read
    split at read
    · cases read
      exact .missing
    · cases read
      exact .null
    · cases read
      exact .text _
    · cases read
  · rintro (_ | _ | _) <;> rfl

theorem details_iff {value : Option Json} {message : Option String} :
    detailMessage value = some message ↔ Details value message := by
  constructor
  · intro read
    unfold detailMessage at read
    split at read
    · cases read
      exact .missing
    · cases read
      exact .null
    · exact .object (gives_iff.mp read)
    · exact .array (gives_iff.mp read)
    · cases read
  · rintro (_ | _ | gives | gives)
    · rfl
    · rfl
    · exact gives_iff.mpr gives
    · exact gives_iff.mpr gives

theorem text?_eq_some_iff {json : Json} {text : String} :
    json.text? = some text ↔ json = .string text := by
  cases json <;> simp [Json.text?]

theorem identifies_iff {aux : Json} {id : String} :
    imageId? aux = some id ↔ Identifies aux id := by
  constructor
  · intro read
    unfold imageId? at read
    split at read
    · obtain ⟨json, found, text⟩ := Option.bind_eq_some_iff.mp read
      rw [text?_eq_some_iff.mp text] at found
      exact .object found
    · rw [text?_eq_some_iff.mp read]
      exact .array id
    · cases read
  · rintro (found | _)
    · exact Option.bind_eq_some_iff.mpr ⟨_, found, rfl⟩
    · rfl

/-- Members that are refused are faulty, in the order in which they are looked at. -/
theorem faulty_of_refused {fault : Fault} (refused : messageOfMembers members = .error fault) :
    Faulty members fault := by
  unfold messageOfMembers at refused
  dsimp only at refused
  split at refused
  · rename_i kind stream error detail isKind isStream isError isDetail
    have has : HasFields members ⟨kind, stream, error, detail⟩ :=
      ⟨gives_iff.mp isKind, gives_iff.mp isStream, gives_iff.mp isError, details_iff.mp isDetail⟩
    split at refused
    · cases refused
    rename_i noFailure
    split at refused
    · rename_i isImage
      split at refused
      · cases refused
      · rename_i noId
        cases refused
        subst isImage
        refine .unusable has noFailure (.image fun aux id found identifies => ?_)
        rw [found, Option.bind_some, identifies_iff.mpr identifies] at noId
        cases noId
    split at refused
    · rename_i isUpdate
      subst isUpdate
      split at refused
      · rename_i noText
        cases refused
        refine .unusable has noFailure (.update fun payload found => ?_)
        rw [found] at noText
        cases noText
      · rename_i payload text
        obtain ⟨aux, found, isText⟩ := Option.bind_eq_some_iff.mp text
        rw [text?_eq_some_iff.mp isText] at found
        split at refused
        · cases refused
        · rename_i unreadable
          cases refused
          exact .unusable has noFailure (.payload found unreadable)
    · split at refused <;> cases refused
  · rename_i mistyped
    cases refused
    exact .mistyped fun fields has => mistyped _ _ _ _ (gives_iff.mpr has.kind)
      (gives_iff.mpr has.stream) (gives_iff.mpr has.error) (details_iff.mpr has.detail)

theorem refused_of_faulty {fault : Fault} (faulty : Faulty members fault) :
    messageOfMembers members = .error fault := by
  cases faulty with
  | mistyped mistyped =>
      unfold messageOfMembers
      dsimp only
      split
      · rename_i isKind isStream isError isDetail
        exact absurd ⟨gives_iff.mp isKind, gives_iff.mp isStream, gives_iff.mp isError,
          details_iff.mp isDetail⟩ (mistyped ⟨_, _, _, _⟩)
      · rfl
  | @unusable fields _ has noFailure unusable =>
      obtain ⟨kind, stream, error, detail⟩ := fields
      rw [Fields.failure] at noFailure
      simp only [messageOfMembers, gives_iff.mpr has.kind, gives_iff.mpr has.stream,
        gives_iff.mpr has.error, details_iff.mpr has.detail, noFailure]
      cases unusable with
      | image noId =>
          have refused : (Json.lookup "aux" members).bind imageId? = none := by
            refine Option.eq_none_iff_forall_ne_some.mpr fun id found => ?_
            obtain ⟨aux, isAux, isId⟩ := Option.bind_eq_some_iff.mp found
            exact noId aux id isAux (identifies_iff.mp isId)
          rw [if_pos rfl, refused]
      | update noText =>
          have refused : (Json.lookup "aux" members).bind Json.text? = none := by
            refine Option.eq_none_iff_forall_ne_some.mpr fun payload found => ?_
            obtain ⟨aux, isAux, isText⟩ := Option.bind_eq_some_iff.mp found
            exact noText payload (isAux.trans (congrArg some (text?_eq_some_iff.mp isText)))
          rw [if_neg (by decide), if_pos rfl, refused]
      | payload found unreadable =>
          rw [if_neg (by decide), if_pos rfl, found]
          simp only [Option.bind_some, Json.text?, unreadable]

end Members

/-- A line of text is refused if it is malformed. -/
theorem messageOf_eq_error_iff {text : String} {fault : Fault} :
    messageOf text.toList = .error fault ↔ Malformed (Utf8.ofString text) fault := by
  constructor
  · intro refused
    unfold messageOf at refused
    split at refused
    · rename_i members object
      exact .faulty rfl object (faulty_of_refused refused)
    · rename_i noObject
      cases refused
      exact .noObject rfl noObject
  · intro malformed
    cases malformed with
    | garbled noText => exact absurd rfl (noText text)
    | noObject isText noObject =>
        obtain rfl := Utf8.ofString_injective isText
        unfold messageOf
        split
        · rename_i members object
          exact absurd object (noObject members)
        · rfl
    | faulty isText object faulty =>
        obtain rfl := Utf8.ofString_injective isText
        rw [Json.parse?] at object
        rw [messageOf, object]
        exact refused_of_faulty faulty

theorem reported_ofString (text : String) : reported (Utf8.ofString text) = Json.quote text := by
  rw [reported, Utf8.toStringLossy_ofString]

theorem readLine_ofString (text : String) :
    readLine (Utf8.ofString text) =
      (messageOf text.toList).mapError (Fault.toError (reported (Utf8.ofString text))) := by
  have decoded : Utf8.decode? (Utf8.ofString text) = some text.toList := Utf8.decode?_encode _
  rw [readLine, decoded, reported_ofString]
  dsimp only
  rw [String.ofList_toList]
  cases messageOf text.toList <;> rfl

/-- Refused are the malformed lines and no others, each with its own text. -/
theorem readLine_eq_error_iff {line : Bytes} {error : ResponseError} :
    readLine line = .error error ↔
      ∃ fault, Malformed line fault ∧ error = fault.toError (reported line) := by
  cases decoded : Utf8.toString? line with
  | none =>
      have noText : ∀ text, Utf8.ofString text ≠ line := by
        rintro text rfl
        rw [Utf8.toString?_ofString] at decoded
        cases decoded
      rw [readLine, Option.map_eq_none_iff.mp decoded]
      constructor
      · intro refused
        cases refused
        exact ⟨.line, .garbled noText, rfl⟩
      · rintro ⟨fault, malformed, rfl⟩
        cases malformed with
        | garbled _ => rfl
        | noObject isText _ => exact absurd isText (noText _)
        | faulty isText _ _ => exact absurd isText (noText _)
  | some text =>
      obtain rfl := Utf8.ofString_of_toString? decoded
      rw [readLine_ofString]
      constructor
      · intro refused
        cases understood : messageOf text.toList with
        | ok message =>
            rw [understood] at refused
            cases refused
        | error fault =>
            rw [understood] at refused
            exact ⟨fault, messageOf_eq_error_iff.mp understood, (Except.error.inj refused).symm⟩
      · rintro ⟨fault, malformed, rfl⟩
        rw [messageOf_eq_error_iff.mpr malformed]
        rfl

/-- Whether a line is understood. -/
theorem readLine_eq_ok_iff {line : Bytes} :
    (∃ message, readLine line = .ok message) ↔ ∀ fault, ¬ Malformed line fault := by
  constructor
  · rintro ⟨message, understood⟩ fault malformed
    rw [readLine_eq_error_iff.mpr ⟨fault, malformed, rfl⟩] at understood
    cases understood
  · intro sound
    cases understood : readLine line with
    | ok message => exact ⟨message, rfl⟩
    | error error =>
        obtain ⟨fault, malformed, -⟩ := readLine_eq_error_iff.mp understood
        exact absurd malformed (sound fault)

/-! ## Up to the first malformed line -/

/-- The first malformed line of a response: the lines before it, and what is wrong with it. -/
structure FirstMalformed (input : Bytes) (before : List Bytes) (line : Bytes) (fault : Fault) :
    Prop where
  stands : ∃ after, linesOf .closed input = before ++ line :: after
  sound : ∀ earlier ∈ before, ∀ fault, ¬ Malformed earlier fault
  malformed : Malformed line fault

/-- The first line over which the program breaks down: the lines before it are taken in, and
with its update the sizes of the downloads of a running step do not fit. -/
structure FirstOverflow (passthrough : Bool) (input : Bytes) (before : List Bytes)
    (line : Bytes) : Prop where
  stands : ∃ after, linesOf .closed input = before ++ line :: after
  beyond : ∃ state records, Takes passthrough {} before state ∧
    readLine line = .ok (.update records) ∧
    ∃ step ∈ (state.written records).2.2.running, ¬ step.loaded.Fits

/-- Where a line stands in the bytes of a response: behind bytes that are the lines before it,
whatever follows, and up to a newline or the end. -/
structure Stands (before : List Bytes) (line : Bytes) (front raw rest : Bytes) : Prop where
  before : ∀ ending more, linesOf ending (front ++ more) = before ++ linesOf ending more
  line : dropReturn raw = line
  unbroken : 10 ∉ raw
  ends : rest = [] ∨ rest.head? = some 10

section Place

variable {before after : List Bytes} {line front raw rest input : Bytes}

/-- By induction on the lines before. -/
theorem exists_stands (lines : linesOf .closed input = before ++ line :: after) :
    ∃ front raw rest, Stands before line front raw rest ∧ input = front ++ (raw ++ rest) := by
  induction before generalizing input with
  | nil =>
      by_cases broken : 10 ∈ input
      · obtain ⟨raw, later, rfl, unbroken⟩ := List.eq_append_cons_of_mem broken
        rw [linesOf_append .closed unbroken] at lines
        obtain ⟨same, -⟩ := List.cons_eq_cons.mp lines
        exact ⟨[], raw, 10 :: later, ⟨fun _ _ => rfl, same, unbroken, .inr rfl⟩, rfl⟩
      · rw [linesOf_unbroken broken] at lines
        split at lines
        · cases lines
        · obtain ⟨same, -⟩ := List.cons_eq_cons.mp lines
          exact ⟨[], input, [], ⟨fun _ _ => rfl, same, broken, .inl rfl⟩,
            (List.append_nil input).symm⟩
  | cons first before ih =>
      by_cases broken : 10 ∈ input
      · obtain ⟨other, later, rfl, unbroken⟩ := List.eq_append_cons_of_mem broken
        rw [linesOf_append .closed unbroken] at lines
        obtain ⟨rfl, more⟩ := List.cons_eq_cons.mp lines
        obtain ⟨front, raw, rest, stands, rfl⟩ := ih more
        refine ⟨other ++ 10 :: front, raw, rest, ⟨fun ending more => ?_, stands.line,
          stands.unbroken, stands.ends⟩, ?_⟩
        · rw [List.append_assoc, List.cons_append, linesOf_append ending unbroken,
            stands.before ending more, List.cons_append]
        · rw [List.append_assoc, List.cons_append]
      · rw [linesOf_unbroken broken] at lines
        split at lines
        · cases lines
        · obtain ⟨-, more⟩ := List.cons_eq_cons.mp lines
          exact absurd more.symm (by simp)

theorem Stands.linesOf_front (stands : Stands before line front raw rest) (ending : Ending) :
    linesOf ending front = before := by
  have lines := stands.before ending []
  rwa [List.append_nil, (by cases ending <;> rfl : linesOf ending [] = []), List.append_nil]
    at lines

/-- Anything can be put behind the end of the line. -/
theorem Stands.linesOf_other (stands : Stands before line front raw rest) (other : Bytes) :
    linesOf .closed (front ++ (raw ++ 10 :: other)) = before ++ line :: linesOf .closed other := by
  rw [stands.before, linesOf_append .closed stands.unbroken, stands.line]

end Place

section Refused

variable {passthrough : Bool} {state : State} {before : List Bytes} {line : Bytes}
  {error : ResponseError}

/-- Only an update with sizes that do not fit breaks the program down. -/
theorem take_eq_error_iff {message : Message} {cause : Breakdown} :
    state.take passthrough message = .error cause ↔
      ∃ records, message = .update records ∧ cause = .overflow ∧
        ∃ step ∈ (state.written records).2.2.running, ¬ step.loaded.Fits := by
  cases message with
  | update records =>
      have shown : (∀ step ∈ (state.written records).2.2.running, step.loaded.Fits) ↔
          ¬ ∃ step ∈ (state.written records).2.2.running, ¬ step.loaded.Fits := by simp
      rw [State.take, update_eq, Tracker.activeSteps_eq]
      split
      · rename_i fits
        refine iff_of_false nofun ?_
        rintro ⟨_, same, -, unfit⟩
        cases same
        exact shown.mp fits unfit
      · rename_i unfit
        constructor
        · intro breaks
          cases breaks
          exact ⟨records, rfl, rfl, not_not.mp (mt shown.mpr unfit)⟩
        · rintro ⟨_, -, rfl, -⟩
          rfl
  | failure _ | image _ | output _ | nothing => exact iff_of_false nofun nofun

/-- What ends the plan of a line and those behind it, if it is the line itself. -/
inductive Ends (passthrough : Bool) (state : State) (line : Bytes) : ResponseError → Prop
  | refused {error : ResponseError} (refused : readLine line = .error error) :
      Ends passthrough state line error
  | brokenDown {message : Message} {cause : Breakdown} (understood : readLine line = .ok message)
      (breaks : state.take passthrough message = .error cause) :
      Ends passthrough state line (.brokenDown cause)

theorem Ends.planOf_eq (ends : Ends passthrough state line error) (after : List Bytes) :
    planOf passthrough state (line :: after) = ⟨[], .error error⟩ := by
  cases ends with
  | refused refused => rw [planOf, refused]
  | brokenDown understood breaks =>
      rw [planOf, understood]
      dsimp only
      rw [breaks]

/-- A plan fails just if one of the lines ends it behind those that are taken in. -/
theorem outcome_eq_error_iff {lines : List Bytes} :
    (planOf passthrough state lines).outcome = .error error ↔
      ∃ before line after next, lines = before ++ line :: after ∧
        Takes passthrough state before next ∧ Ends passthrough next line error := by
  constructor
  · intro fails
    induction lines generalizing state with
    | nil => cases fails
    | cons first more ih =>
        rw [planOf] at fails
        cases understood : readLine first with
        | error refusal =>
            rw [understood] at fails
            obtain rfl := Except.error.inj fails
            exact ⟨[], first, more, state, rfl, .nil state, .refused understood⟩
        | ok message =>
            rw [understood] at fails
            dsimp only at fails
            cases taken : state.take passthrough message with
            | error cause =>
                rw [taken] at fails
                obtain rfl := Except.error.inj fails
                exact ⟨[], first, more, state, rfl, .nil state, .brokenDown understood taken⟩
            | ok result =>
                obtain ⟨next, told, text⟩ := result
                rw [taken] at fails
                obtain ⟨before, line, after, last, rfl, takes, ends⟩ := ih fails
                exact ⟨first :: before, line, after, last, rfl, .cons understood taken takes, ends⟩
  · rintro ⟨before, line, after, next, rfl, takes, ends⟩
    rw [takes.planOf_append, ends.planOf_eq]

theorem Takes.understood {after : State} (takes : Takes passthrough state before after) :
    ∀ earlier ∈ before, ∃ message, readLine earlier = .ok message := by
  induction takes with
  | nil _ => exact List.forall_mem_nil _
  | cons understood _ _ ih => exact List.forall_mem_cons.mpr ⟨⟨_, understood⟩, ih⟩

/-- What stands behind a line that is refused is not looked at. -/
theorem readLines_of_refused (refused : readLine line = .error error) (conditions : Conditions)
    (trail : List Effect) (journal : List Journal.Entry) (after other : List Bytes) :
    readLines conditions passthrough state trail journal (before ++ line :: after) =
      readLines conditions passthrough state trail journal (before ++ line :: other) := by
  induction before generalizing state trail journal with
  | nil => simp only [List.nil_append, readLines, refused]
  | cons first before ih =>
      simp only [List.cons_append, readLines, ih]

end Refused

/-- When nothing more arrives all turns have been played, and nothing is written for the end. -/
theorem read_stalled (passthrough : Bool) (input : Bytes) :
    (read { ending := .stalled } passthrough input).trail =
      (plan .stalled passthrough input).turns.flatMap Turn.effects := by
  have played := read_eq_play { ending := .stalled } passthrough input
  dsimp only at played
  rw [play_to_end, List.nil_append] at played
  refine (congrArg Prod.fst played).trans ?_
  cases (plan .stalled passthrough input).outcome <;> rfl

section Reports

variable {passthrough : Bool} {input : Bytes} {before : List Bytes} {line : Bytes} {fault : Fault}

theorem FirstMalformed.refused (first : FirstMalformed input before line fault) :
    readLine line = .error (fault.toError (reported line)) :=
  readLine_eq_error_iff.mpr ⟨fault, first.malformed, rfl⟩

/-- The first malformed line decides what is read and what comes of it, if the lines before it
are taken in. -/
theorem FirstMalformed.plan_eq (first : FirstMalformed input before line fault) {next : State}
    (takes : Takes passthrough {} before next) :
    plan .closed passthrough input =
      ⟨(planOf passthrough {} before).turns, .error (fault.toError (reported line))⟩ := by
  obtain ⟨after, lines⟩ := first.stands
  have ends : Ends passthrough next line _ := .refused first.refused
  rw [plan, lines, takes.planOf_append, ends.planOf_eq, List.append_nil]

theorem result_eq_error_iff_outcome {error : ResponseError} :
    (read {} passthrough input).result = .error error ↔
      (plan .closed passthrough input).outcome = .error error := by
  rw [(read_free passthrough input).2]
  cases (plan .closed passthrough input).outcome with
  | ok rest => exact iff_of_false nofun nofun
  | error other => rw [Except.map, Except.error.injEq, Except.error.injEq]

/-- A reading fails with the error of the first malformed line, if the lines before it are taken
in, and else it breaks down over one of them. -/
theorem result_eq_error_iff {error : ResponseError} :
    (read {} passthrough input).result = .error error ↔
      (∃ before line fault, FirstMalformed input before line fault ∧
        (∃ next, Takes passthrough {} before next) ∧ error = fault.toError (reported line)) ∨
      (∃ before line, FirstOverflow passthrough input before line) ∧
        error = .brokenDown .overflow := by
  rw [result_eq_error_iff_outcome]
  constructor
  · intro fails
    obtain ⟨before, line, after, next, lines, takes, ends⟩ := outcome_eq_error_iff.mp fails
    cases ends with
    | refused refused =>
        obtain ⟨fault, malformed, same⟩ := readLine_eq_error_iff.mp refused
        refine Or.inl ⟨before, line, fault, ⟨⟨after, lines⟩, ?_, malformed⟩, ⟨next, takes⟩, same⟩
        exact fun earlier member => readLine_eq_ok_iff.mp (takes.understood earlier member)
    | brokenDown understood breaks =>
        obtain ⟨records, rfl, rfl, unfit⟩ := take_eq_error_iff.mp breaks
        exact Or.inr ⟨⟨before, line, ⟨after, lines⟩, next, records, takes, understood, unfit⟩, rfl⟩
  · rintro (⟨before, line, fault, first, ⟨next, takes⟩, rfl⟩ | ⟨⟨before, line, beyond⟩, rfl⟩)
    · rw [first.plan_eq takes]
    · obtain ⟨⟨after, lines⟩, next, records, takes, understood, unfit⟩ := beyond
      have breaks : next.take passthrough (.update records) = .error .overflow :=
        take_eq_error_iff.mpr ⟨records, rfl, rfl, unfit⟩
      exact outcome_eq_error_iff.mpr
        ⟨before, line, after, next, lines, takes, .brokenDown understood breaks⟩

/-- The lines before the first malformed one are taken in, unless the program breaks down over
one of them. -/
theorem FirstMalformed.takes_or_beyond (first : FirstMalformed input before line fault)
    (passthrough : Bool) :
    (∃ next, Takes passthrough {} before next) ∨
      ∃ earlier beyond later, before = earlier ++ beyond :: later ∧
        FirstOverflow passthrough input earlier beyond := by
  cases outcome : (planOf passthrough {} before).outcome with
  | ok rest => exact Or.inl (outcome_eq_ok_iff.mp ⟨rest, outcome⟩)
  | error error =>
      obtain ⟨earlier, beyond, later, next, rfl, takes, ends⟩ := outcome_eq_error_iff.mp outcome
      refine Or.inr ⟨earlier, beyond, later, rfl, ?_⟩
      obtain ⟨after, lines⟩ := first.stands
      cases ends with
      | refused refused =>
          obtain ⟨fault, malformed, -⟩ := readLine_eq_error_iff.mp refused
          exact absurd malformed (first.sound beyond (by simp) fault)
      | brokenDown understood breaks =>
          obtain ⟨records, rfl, -, unfit⟩ := take_eq_error_iff.mp breaks
          refine ⟨⟨later ++ line :: after, ?_⟩, next, records, takes, understood, unfit⟩
          rw [lines, List.append_assoc, List.cons_append]

/-- Up to the first malformed line a response is read as the lines before it are, but for what
is written at their end. -/
theorem FirstMalformed.trail_eq (first : FirstMalformed input before line fault) {next : State}
    (takes : Takes passthrough {} before next) {front : Bytes}
    (lines : ∀ ending, linesOf ending front = before) :
    (read {} passthrough input).trail = (read { ending := .stalled } passthrough front).trail ∧
      ∃ flush, (plan .closed passthrough front).outcome = .ok flush ∧
        (read {} passthrough front).trail =
          (read {} passthrough input).trail ++ written flush := by
  have trail : (read {} passthrough input).trail =
      (planOf passthrough {} before).turns.flatMap Turn.effects := by
    rw [(read_free passthrough input).1, first.plan_eq takes, Plan.effects, closing_error,
      List.append_nil]
  refine ⟨?_, next.rest, ?_, ?_⟩
  · rw [trail, read_stalled, plan, lines]
  · rw [plan, lines, takes.outcome_eq]
  · rw [trail, (read_free passthrough front).1, plan, lines, Plan.effects, takes.outcome_eq]
    rfl

/-- Whatever stands behind the first malformed line, the same is read. -/
theorem FirstMalformed.read_other {front raw rest : Bytes}
    (first : FirstMalformed input before line fault) (stands : Stands before line front raw rest)
    (passthrough : Bool) (other : Bytes) :
    read {} passthrough (front ++ (raw ++ 10 :: other)) = read {} passthrough input := by
  obtain ⟨after, lines⟩ := first.stands
  rw [read, read, stands.linesOf_other other, lines]
  exact readLines_of_refused first.refused {} [] [] _ after

end Reports

theorem reported_printable {line : Bytes} {c : Char} (member : c ∈ (reported line).toList) :
    32 ≤ c.toNat := by
  rw [reported, Json.quote, String.toList_ofList] at member
  exact Json.quoteChars_printable member

/-- **Malformed lines.** A reading that nothing disturbs fails just if the response has a
malformed line, and with the error for the first of them, or if the program breaks down over a
line before it. If it does not, what has been written and told comes from the lines before the
malformed one, without what would be written at their end. Nothing behind the line makes a
difference. What is reported has no control characters, and a line of text is read back from
it. -/
theorem read_malformed (passthrough : Bool) (input : Bytes) :
    let report := read {} passthrough input
    (∀ error, report.result = .error error ↔
      (∃ before line fault, FirstMalformed input before line fault ∧
        (∃ next, Takes passthrough {} before next) ∧ error = fault.toError (reported line)) ∨
      (∃ before line, FirstOverflow passthrough input before line) ∧
        error = .brokenDown .overflow) ∧
    ∀ before line fault, FirstMalformed input before line fault →
      ((∃ next, Takes passthrough {} before next) ∨
        ∃ earlier beyond later, before = earlier ++ beyond :: later ∧
          FirstOverflow passthrough input earlier beyond) ∧
      (∃ front raw rest, Stands before line front raw rest ∧ input = front ++ (raw ++ rest) ∧
        ((∃ next, Takes passthrough {} before next) →
          report.trail = (read { ending := .stalled } passthrough front).trail ∧
          ∃ flush, (plan .closed passthrough front).outcome = .ok flush ∧
            (read {} passthrough front).trail = report.trail ++ written flush) ∧
        ∀ other, read {} passthrough (front ++ (raw ++ 10 :: other)) = report) ∧
      (∀ c ∈ (reported line).toList, 32 ≤ c.toNat) ∧
      ∀ text, Utf8.ofString text = line → Json.parse? (reported line) = some (.string text) := by
  refine ⟨fun error => result_eq_error_iff, fun before line fault first => ⟨?_, ?_, ?_, ?_⟩⟩
  · exact first.takes_or_beyond passthrough
  · obtain ⟨after, lines⟩ := first.stands
    obtain ⟨front, raw, rest, stands, whole⟩ := exists_stands lines
    refine ⟨front, raw, rest, stands, whole, ?_, first.read_other stands passthrough⟩
    rintro ⟨next, takes⟩
    exact first.trail_eq takes stands.linesOf_front
  · exact fun c member => reported_printable member
  · rintro text rfl
    rw [reported_ofString]
    exact Json.parse?_quote text

/-- A text, an update that is not in base64, and a line that is not even text. -/
theorem read_malformed_update :
    let first := Utf8.ofString "\x7b\"stream\":\"pulled\"\x7d"
    let text := "\x7b\"id\":\"moby.buildkit.trace\",\"aux\":\"?\"\x7d"
    let input := first ++ 10 :: (Utf8.ofString text ++ [13, 10, 255, 10])
    FirstMalformed input [first] (Utf8.ofString text) (.update .encoding) ∧
      (read {} true input).result =
        .error (.malformedUpdate (reported (Utf8.ofString text)) .encoding) ∧
      Json.parse? (reported (Utf8.ofString text)) = some (.string text) := by
  intro first text input
  have malformed : Malformed (Utf8.ofString text) (.update .encoding) :=
    messageOf_eq_error_iff.mp (by decide +kernel)
  have isOutput : readLine first = .ok (.output "pulled") := by decide +kernel
  have least : FirstMalformed input [first] (Utf8.ofString text) (.update .encoding) := by
    refine ⟨⟨[[255]], by decide +kernel⟩, List.forall_mem_singleton.mpr ?_, malformed⟩
    exact readLine_eq_ok_iff.mp ⟨_, isOutput⟩
  have takes : ∃ next, Takes true {} [first] next := ⟨_, .cons isOutput rfl (.nil _)⟩
  obtain ⟨fails, follows⟩ := read_malformed true input
  obtain ⟨-, -, -, readBack⟩ := follows _ _ _ least
  exact ⟨least, (fails _).mpr (Or.inl ⟨_, _, _, least, takes, rfl⟩), readBack text rfl⟩

/-- A line with an update of three layers, each of the greatest size. -/
def vastUpdate : String :=
  "\x7b\"id\":\"moby.buildkit.trace\",\"aux\":\"CgkKAWEaBHB1bGwSFgoFZmlyc3QSAWEgBSj//////////38" ++
    "SFwoGc2Vjb25kEgFhIAUo//////////9/EhYKBXRoaXJkEgFhIAUo//////////9/\"\x7d"

/-- A malformed line need not be reported. -/
theorem malformed_unreported :
    ¬ ∀ passthrough input before line fault, FirstMalformed input before line fault →
      (read {} passthrough input).result = .error (fault.toError (reported line)) := by
  intro reports
  let line := Utf8.ofString "nope"
  let input := Utf8.ofString vastUpdate ++ 10 :: (line ++ [10])
  let layer text := Record.operated "a" text 5 9223372036854775807 false false
  let records := [.declared "a" "pull", layer "first", layer "second", layer "third"]
  have first : FirstMalformed input [Utf8.ofString vastUpdate] line .line := by
    refine ⟨⟨[], by decide +kernel⟩, List.forall_mem_singleton.mpr ?_, ?_⟩
    · exact readLine_eq_ok_iff.mp ⟨.update records, by decide +kernel⟩
    · exact messageOf_eq_error_iff.mp (by decide +kernel)
  have breaks : (read {} false input).result = .error (.brokenDown .overflow) := by
    decide +kernel
  cases breaks.symm.trans (reports false input _ _ _ first)

end ContainerTasks.Progress.Response
