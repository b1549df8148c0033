import Mathlib
import ContainerTasks.Proofs.Daemon.Conversation
import ContainerTasks.Proofs.Progress.Plan

/-! # What two builders make of one answer

An answer to a build request may be lines of records that name an image, report a failure or
hold text. Both builders read each line as the record it spells. The newer one goes by the
first record that names an image or reports a failure; the older one ends at the first failure
and otherwise goes by the last image (`build_records`). So they differ where an image is named
before a failure, and where no failure is reported and the first and the last image differ.
-/

namespace ContainerTasks.Daemon

open Progress (Effect)
open Progress.Response (Message Turn State cutLines_append cutLines_unbroken dropReturn linesOf planOf
  written)

/-- A record in the answer to a build request. -/
inductive BuildRecord
  | image (id : String)
  | failure (message : String)
  | output (text : String)

namespace BuildRecord

/-- The members of the object that a record is written as. -/
def members : BuildRecord → List (String × Json)
  | image id =>
    [("id", .string Progress.Response.imageKind), ("aux", .object [("ID", .string id)])]
  | failure message => [("error", .string message)]
  | output text => [("stream", .string text)]

/-- The image that a record names. -/
def image? : BuildRecord → Option String
  | image id => some id
  | failure _ | output _ => none

/-- The failure that a record reports. -/
def failure? : BuildRecord → Option String
  | failure message => some message
  | image _ | output _ => none

/-- What a record says to the reader of the newer builder. -/
def message : BuildRecord → Message
  | image id => .image id
  | failure message => .failure message
  | output text => .output text

/-- What a record says to the reader of the older builder. -/
def line : BuildRecord → BuildLine
  | image id => { text := "", error := none, image := some id }
  | failure message => { text := "", error := some message, image := none }
  | output text => { text, error := none, image := none }

/-- The result that a record gives a build, if it goes by this record. -/
def result? : BuildRecord → Option (Except Failure String)
  | image id => some (.ok id)
  | failure message => some (.error ⟨.buildFailed message, none⟩)
  | output _ => none

variable {members : List (String × Json)}

/-- The members of a record, in whatever order, come as they do or the other way around. -/
theorem eq_or_eq_reverse {record : BuildRecord} (perm : members.Perm record.members) :
    members = record.members ∨ members = record.members.reverse := by
  cases record with
  | image id => exact List.perm_pair.mp perm
  | failure message => exact Or.inl (List.perm_singleton.mp perm)
  | output text => exact Or.inl (List.perm_singleton.mp perm)

theorem messageOfMembers_eq (record : BuildRecord) (perm : members.Perm record.members) :
    Progress.Response.messageOfMembers members = .ok record.message := by
  rcases eq_or_eq_reverse perm with rfl | rfl
  · cases record <;> rfl
  · cases record <;> rfl

theorem buildLine?_eq (record : BuildRecord) (perm : members.Perm record.members) :
    buildLine? (.object members) = some record.line := by
  rcases eq_or_eq_reverse perm with rfl | rfl
  · cases record <;> rfl
  · cases record <;> rfl

end BuildRecord

/-- A line spells a record, with or without the carriage return at its end. -/
structure Spelling (line : Bytes) (record : BuildRecord) : Prop where
  unbroken : 10 ∉ line
  object : ∃ members : List (String × Json), members.Perm record.members ∧
    (Text.Utf8.decode? line).bind Json.parseChars? = some (.object members) ∧
    (Text.Utf8.decode? (dropReturn line)).bind Json.parseChars? = some (.object members)

/-- A body is lines that spell records; the last of them may lack its line feed. -/
inductive Spells : List BuildRecord → Bytes → Prop
  | nil : Spells [] []
  | last {record : BuildRecord} {line : Bytes} (spelling : Spelling line record) : Spells [record] line
  | cons {record : BuildRecord} {line : Bytes} {records : List BuildRecord} {rest : Bytes}
      (spelling : Spelling line record) (spells : Spells records rest) :
      Spells (record :: records) (line ++ 10 :: rest)

namespace Spelling

variable {line : Bytes} {record : BuildRecord}

theorem ne_nil (spelling : Spelling line record) : line ≠ [] := by
  rintro rfl
  obtain ⟨members, -, parses, -⟩ := spelling.object
  exact absurd parses (by simp [show Text.Utf8.decode? [] = some [] from rfl,
    show Json.parseChars? [] = none from rfl])

theorem readLine_eq (spelling : Spelling line record) :
    Progress.Response.readLine (dropReturn line) = .ok record.message := by
  obtain ⟨members, perm, -, parses⟩ := spelling.object
  obtain ⟨chars, decodes, parses⟩ := Option.bind_eq_some_iff.mp parses
  rw [Progress.Response.readLine, decodes]
  dsimp only
  rw [Progress.Response.messageOf, parses]
  dsimp only
  rw [record.messageOfMembers_eq perm]

theorem readJson?_eq (spelling : Spelling line record) :
    readJson? buildLine? line = some record.line := by
  obtain ⟨members, perm, parses, -⟩ := spelling.object
  rw [readJson?, parses, Option.bind_some, record.buildLine?_eq perm]

end Spelling

/-! ## The newer builder -/

/-- The lines of a body that spells records. -/
theorem Spells.linesOf_eq {records : List BuildRecord} {body : Bytes} (spells : Spells records body) :
    List.Forall₂ (fun line record => Progress.Response.readLine line = .ok record.message)
      (linesOf .closed body) records := by
  unfold linesOf
  induction spells with
  | nil => exact .nil
  | last spelling =>
      rw [cutLines_unbroken spelling.unbroken]
      have some : (List.isEmpty _) = false := List.isEmpty_eq_false_iff.mpr spelling.ne_nil
      simp only [some, decide_true, Bool.not_false, Bool.and_self, ↓reduceIte, List.nil_append,
        List.map_cons, List.map_nil]
      exact .cons spelling.readLine_eq .nil
  | cons spelling spells ih =>
      rw [cutLines_append spelling.unbroken]
      exact .cons spelling.readLine_eq ih

/-- The result that records give a build by the newer builder. -/
def stepsResult (records : List BuildRecord) : Except Failure String :=
  (records.findSome? BuildRecord.result?).getD (.error ⟨noImage, none⟩)

theorem stepsResult_cons (record : BuildRecord) (rest : List BuildRecord) :
    stepsResult (record :: rest) = record.result?.getD (stepsResult rest) := by
  rw [stepsResult, List.findSome?_cons]
  cases record.result? <;> rfl

/-- What the first last event of a trail says does not depend on what is written. -/
theorem imageOf_written (text : String) (trail : List Effect) :
    imageOf (written text ++ trail) = imageOf trail := by
  unfold written
  split
  · rfl
  · rfl

/-- A record is taken in without a new step, and a record that ends the build is told once. -/
theorem take_record (passthrough : Bool) (state : State) (record : BuildRecord) :
    ∃ after told text, state.take passthrough record.message = .ok (after, told, text) ∧
      after.tracker = state.tracker ∧
      after.isTerminated = (state.isTerminated || record.result?.isSome) ∧
      ∀ trail, imageOf ((Turn.mk told text).effects ++ trail) =
        if state.isTerminated then imageOf trail else record.result?.getD (imageOf trail) := by
  cases record with
  | image id =>
      rcases state with ⟨tracker, cursor, lastActive, isTerminated⟩
      cases isTerminated <;> exact ⟨_, _, _, rfl, rfl, rfl, fun _ => rfl⟩
  | failure message =>
      rcases state with ⟨tracker, cursor, lastActive, isTerminated⟩
      cases isTerminated <;> exact ⟨_, _, _, rfl, rfl, rfl, fun _ => rfl⟩
  | output text =>
      refine ⟨_, _, _, rfl, rfl, (Bool.or_false _).symm, fun trail => ?_⟩
      exact (imageOf_written _ trail).trans (ite_self _).symm

/-- The plan of lines that are records: they are read to the end, nothing is left to write, and
the first last event is that of the first record that has one. -/
theorem planOf_records (passthrough : Bool) {lines : List Bytes} {records : List BuildRecord}
    (reads : List.Forall₂ (fun line record => Progress.Response.readLine line = .ok record.message)
      lines records) :
    ∀ {state : State}, state.tracker.steps = [] →
      (planOf passthrough state lines).outcome = .ok "" ∧
      imageOf ((planOf passthrough state lines).turns.flatMap Turn.effects) =
        if state.isTerminated then .error ⟨noImage, none⟩ else stepsResult records := by
  induction reads with
  | nil =>
      intro state empty
      refine ⟨?_, ?_⟩
      · rw [planOf, State.rest, Progress.Transcript.write, empty, List.drop_nil]
        rfl
      · rw [planOf]
        exact (ite_self _).symm
  | @cons line record lines records reads _ ih =>
      intro state empty
      obtain ⟨after, told, text, taken, tracker, terminated, image⟩ :=
        take_record passthrough state record
      obtain ⟨outcome, later⟩ := ih (tracker ▸ empty)
      rw [planOf, reads]
      dsimp only
      rw [taken]
      dsimp only
      rw [List.flatMap_cons]
      refine ⟨outcome, ?_⟩
      rw [image, later, terminated, stepsResult_cons]
      cases state.isTerminated with
      | true => rfl
      | false => cases record.result? <;> rfl

/-- The newer builder goes by the first record that names an image or reports a failure. -/
theorem readSteps_records {records : List BuildRecord} {body : Bytes} (spells : Spells records body)
    (passthrough : Bool) :
    (readSteps {} passthrough ⟨body, false⟩).result = stepsResult records := by
  obtain ⟨outcome, image⟩ := planOf_records passthrough spells.linesOf_eq
    (show ({} : State).tracker.steps = [] from rfl)
  obtain ⟨trail, result⟩ := Progress.Response.read_free passthrough body
  rw [Progress.Response.plan] at trail result
  rw [outcome] at result
  have whole : imageOf (Progress.Response.read {} passthrough body).trail = stepsResult records := by
    rw [trail, Progress.Response.Plan.effects, outcome]
    exact (congrArg imageOf (List.append_nil _)).trans image
  rw [readSteps, if_neg Bool.false_ne_true]
  dsimp only
  rw [result]
  exact whole

/-! ## The older builder -/

theorem cutLine?_unbroken {line : Bytes} (unbroken : 10 ∉ line) : cutLine? line = none := by
  induction line with
  | nil => rfl
  | cons byte rest ih =>
      obtain ⟨other, unbroken⟩ := not_or.mp (mt List.mem_cons.mpr unbroken)
      rw [cutLine?, if_neg (Ne.symm other), ih unbroken]
      rfl

theorem cutLine?_append {line : Bytes} (unbroken : 10 ∉ line) (rest : Bytes) :
    cutLine? (line ++ 10 :: rest) = some (line, rest) := by
  induction line with
  | nil => rfl
  | cons byte more ih =>
      obtain ⟨other, unbroken⟩ := not_or.mp (mt List.mem_cons.mpr unbroken)
      rw [List.cons_append, cutLine?, if_neg (Ne.symm other), ih unbroken]
      rfl

/-- Each line is handed over as what it says. -/
theorem Spells.readLines_eq {records : List BuildRecord} {body : Bytes}
    (spells : Spells records body) :
    readLines buildLine? false body = records.map fun record => .ok record.line := by
  induction spells with
  | nil =>
      rw [readLines]
      rfl
  | last spelling =>
      rw [readLines]
      split
      · have some : (List.isEmpty _) = false := List.isEmpty_eq_false_iff.mpr spelling.ne_nil
        rw [some, spelling.readJson?_eq]
        rfl
      · rename_i found
        rw [cutLine?_unbroken spelling.unbroken] at found
        cases found
  | cons spelling spells ih =>
      rw [readLines]
      split
      · rename_i found
        rw [cutLine?_append spelling.unbroken] at found
        cases found
      · rename_i found
        rw [cutLine?_append spelling.unbroken] at found
        obtain ⟨rfl, rfl⟩ := Prod.mk.inj (Option.some.inj found)
        rw [spelling.readJson?_eq, List.map_cons, ← ih]

/-- The result of the older builder, given the failures and the images in the order of their
records: that of the first failure, or of the last image. -/
def textOutcome (failures images : List String) : Except Failure String :=
  match failures.head?, images.getLast? with
  | some message, _ => .error ⟨.buildFailed message, none⟩
  | none, some image => .ok image
  | none, none => .error ⟨noImage, none⟩

/-- The result that records give a build by the older builder. -/
def textResult (records : List BuildRecord) : Except Failure String :=
  textOutcome (records.filterMap BuildRecord.failure?) (records.filterMap BuildRecord.image?)

theorem textOutcome_cons_cons (failures images : List String) (first second : String) :
    textOutcome failures (first :: second :: images) = textOutcome failures (second :: images) := by
  rw [textOutcome, textOutcome, List.getLast?_cons_cons]

/-- The older builder ends at the first record that reports a failure, and otherwise goes by the
last that names an image. -/
theorem readText_records (records : List BuildRecord) (image : Option String)
    (trail : List Effect) :
    (readText {} image trail (records.map fun record => .ok record.line)).result =
      textOutcome (records.filterMap BuildRecord.failure?)
        (image.toList ++ records.filterMap BuildRecord.image?) := by
  induction records generalizing image trail with
  | nil => cases image <;> rfl
  | cons record rest ih =>
      rw [List.map_cons, readText, if_neg Bool.false_ne_true]
      cases record with
      | failure message => rfl
      | image id =>
          refine (ih (some id) trail).trans ?_
          cases image with
          | none => rfl
          | some former => exact (textOutcome_cons_cons _ _ former id).symm
      | output text =>
          by_cases empty : text.isEmpty
          · exact (congrArg BuildReport.result (if_pos empty)).trans (ih image trail)
          · exact (congrArg BuildReport.result (if_neg empty)).trans (ih image _)

/-! ## Both builders -/

/-- Where the newer builder ends with an error, so does the older one. -/
theorem textResult_of_error {records : List BuildRecord} {failure : Failure}
    (fails : stepsResult records = .error failure) : textResult records = .error failure := by
  induction records with
  | nil => exact fails
  | cons record rest ih =>
      cases record with
      | image id => cases fails
      | failure message => exact fails
      | output text => exact ih fails

theorem textResult_eq_ok_iff (records : List BuildRecord) (image : String) :
    textResult records = .ok image ↔
      (∀ message, .failure message ∉ records) ∧
        (records.filterMap BuildRecord.image?).getLast? = some image := by
  have sound : (records.filterMap BuildRecord.failure?).head? = none ↔
      ∀ message, .failure message ∉ records := by
    rw [List.head?_eq_none_iff, List.filterMap_eq_nil_iff]
    constructor
    · intro silent message member
      cases silent _ member
    · intro absent record member
      cases record with
      | failure message => exact (absent message member).elim
      | image _ => rfl
      | output _ => rfl
  rw [← sound, textResult, textOutcome]
  cases (records.filterMap BuildRecord.failure?).head? with
  | some message => simp
  | none => cases (records.filterMap BuildRecord.image?).getLast? <;> simp

/-- The older builder never names an image where a failure is reported. -/
theorem textResult_of_failure {records : List BuildRecord} {message : String}
    (member : .failure message ∈ records) :
    ∃ first, .failure first ∈ records ∧
      textResult records = .error ⟨.buildFailed first, none⟩ := by
  obtain ⟨first, rest, failures⟩ : ∃ first rest,
      records.filterMap BuildRecord.failure? = first :: rest := by
    have reported : message ∈ records.filterMap BuildRecord.failure? :=
      List.mem_filterMap.mpr ⟨_, member, rfl⟩
    exact List.exists_cons_of_ne_nil (List.ne_nil_of_mem reported)
  have listed : first ∈ records.filterMap BuildRecord.failure? := by
    rw [failures]
    exact List.mem_cons_self
  obtain ⟨record, present, reports⟩ := List.mem_filterMap.mp listed
  refine ⟨first, ?_, ?_⟩
  · cases record with
    | failure other =>
        cases reports
        exact present
    | image _ => cases reports
    | output _ => cases reports
  · rw [textResult, failures]
    rfl

/-- The builders agree unless the newer one names an image although a failure is reported or
another image is the last. -/
theorem stepsResult_eq_textResult_iff (records : List BuildRecord) :
    stepsResult records = textResult records ↔
      ∀ image, stepsResult records = .ok image →
        (∀ message, .failure message ∉ records) ∧
          (records.filterMap BuildRecord.image?).getLast? = some image := by
  constructor
  · intro same image names
    exact (textResult_eq_ok_iff records image).mp (same.symm.trans names)
  · intro last
    cases result : stepsResult records with
    | ok image => exact ((textResult_eq_ok_iff records image).mpr (last image result)).symm
    | error failure => exact (textResult_of_error result).symm

section

variable {δ : Type} {client : Client δ} {build : Engine.BuildRequest}
  {context : List (String × Files.Entry)} {session : Session δ} {body : Bytes}

/-- What is sent back with a good status and a body arrives. -/
theorem outcome_send {request : Request}
    (answers : (client.behaviour request session.state).1 = .received 200 body false) :
    (ContainerTasks.outcome (send client.behaviour request) session).1 =
      .received 200 body false := by
  change (client.behaviour request session.state).1.arrived = _
  rw [answers]
  rfl

theorem build_steps (found : buildContext client.store build.directory = .ok context)
    (newer : client.buildkit = true)
    (fits : (stepBuild build context).address.utf8ByteSize ≤ maxAddress)
    (answers : (client.behaviour (stepBuild build context) session.state).1 =
      .received 200 body false) :
    (ContainerTasks.outcome (client.build {} build) session).1 =
      readSteps {} client.passthrough ⟨body, false⟩ := by
  rw [Client.build, found]
  dsimp only
  rw [if_pos newer, Client.buildInSteps_eq, if_neg (Nat.not_lt_of_le fits), outcome_seq,
    outcome_send answers]
  rfl

theorem build_text (found : buildContext client.store build.directory = .ok context)
    (older : client.buildkit = false)
    (answers : (client.behaviour (textBuild build context) session.state).1 =
      .received 200 body false) :
    (ContainerTasks.outcome (client.build {} build) session).1 =
      readText {} none [] ((readLines buildLine? false body).map client.handed) := by
  have delivers : (ContainerTasks.outcome
      (request client.behaviour (textBuild build context)).run session).1 = .ok ⟨body, false⟩ := by
    have lifted : (ContainerTasks.outcome
        (ExceptT.lift (send client.behaviour (textBuild build context)) : Errand δ Answer).run
        session).1 = .ok (.received 200 body false) :=
      congrArg Except.ok (outcome_send answers)
    rw [request, outcome_bind, lifted]
    rfl
  rw [Client.build, found]
  dsimp only
  rw [if_neg (by rw [older]; exact Bool.false_ne_true), Client.buildAsText,
    if_neg Bool.false_ne_true, outcome_seq, delivers]
  rfl

theorem build_newer (found : buildContext client.store build.directory = .ok context)
    {records : List BuildRecord} (spells : Spells records body)
    (fits : (stepBuild build context).address.utf8ByteSize ≤ maxAddress)
    (answers : (client.behaviour (stepBuild build context) session.state).1 =
      .received 200 body false) :
    (ContainerTasks.outcome
      (Client.build { client with buildkit := true } {} build) session).1.result =
      stepsResult records := by
  have reads := @build_steps δ { client with buildkit := true } _ _ _ _ found rfl fits answers
  exact (congrArg BuildReport.result reads).trans (readSteps_records spells client.passthrough)

theorem build_older (hands : client.handed = id)
    (found : buildContext client.store build.directory = .ok context)
    {records : List BuildRecord} (spells : Spells records body)
    (answers : (client.behaviour (textBuild build context) session.state).1 =
      .received 200 body false) :
    (ContainerTasks.outcome
      (Client.build { client with buildkit := false } {} build) session).1.result =
      textResult records := by
  have reads := @build_text δ { client with buildkit := false } _ _ _ _ found rfl answers
  refine (congrArg BuildReport.result reads).trans ?_
  change (readText {} none [] (List.map client.handed _)).result = _
  rw [hands, List.map_id, spells.readLines_eq]
  exact readText_records records none []

/-- **Two builders.** Given requests that are sent, an answer that is lines of records, and lines
handed over as they are, the newer builder goes by the first record that names an image or reports
a failure; the older one ends at the first failure and otherwise goes by the last image, and so
never names an image where a failure is reported. They agree exactly if an image that the newer
one goes by is also the last and no failure is reported beside it. -/
theorem build_records (hands : client.handed = id)
    (found : buildContext client.store build.directory = .ok context)
    {records : List BuildRecord} (spells : Spells records body)
    (fits : (stepBuild build context).address.utf8ByteSize ≤ maxAddress)
    (newer : (client.behaviour (stepBuild build context) session.state).1 =
      .received 200 body false)
    (older : (client.behaviour (textBuild build context) session.state).1 =
      .received 200 body false) :
    let steps := (ContainerTasks.outcome
      (Client.build { client with buildkit := true } {} build) session).1.result
    let text := (ContainerTasks.outcome
      (Client.build { client with buildkit := false } {} build) session).1.result
    steps = stepsResult records ∧ text = textResult records ∧
      (∀ message, .failure message ∈ records →
        ∃ first, .failure first ∈ records ∧ text = .error ⟨.buildFailed first, none⟩) ∧
      (steps = text ↔ ∀ image, steps = .ok image →
        (∀ message, .failure message ∉ records) ∧
          (records.filterMap BuildRecord.image?).getLast? = some image) := by
  intro steps text
  have first : steps = stepsResult records := build_newer found spells fits newer
  have last : text = textResult records := build_older hands found spells older
  rw [first, last]
  exact ⟨rfl, rfl, fun _ => textResult_of_failure, stepsResult_eq_textResult_iff records⟩

end

/-- A directory with nothing in it, to be built with a tag. -/
def appBuild : Engine.BuildRequest where
  directory := "/app"
  dockerfile := "Dockerfile"
  arguments := ∅
  tag := "shop-app"

/-- A client of a daemon that answers every request with a body. -/
def answering (body : Bytes) : Client Unit where
  behaviour _ state := (.received 200 body false, state)
  store := { entries := [(["app"], .directory)] }
  handed := id

/-- The line that names an image. -/
def imageLine : Bytes :=
  Text.Utf8.ofString "\x7b\"id\":\"moby.image.id\",\"aux\":\x7b\"ID\":\"sha256:one\"\x7d\x7d"

/-- A line of text. -/
def outputLine : Bytes :=
  Text.Utf8.ofString "\x7b\"stream\":\"Step 1\"\x7d"

/-- The line that reports a failure. -/
def failureLine : Bytes :=
  Text.Utf8.ofString "\x7b\"error\":\"tagging failed\"\x7d"

theorem imageLine_spelling : Spelling imageLine (.image "sha256:one") :=
  ⟨by decide +kernel, BuildRecord.members (.image "sha256:one"), .refl _, by cbv, by cbv⟩

theorem outputLine_spelling : Spelling outputLine (.output "Step 1") :=
  ⟨by decide +kernel, BuildRecord.members (.output "Step 1"), .refl _, by cbv, by cbv⟩

theorem failureLine_spelling : Spelling failureLine (.failure "tagging failed") :=
  ⟨by decide +kernel, BuildRecord.members (.failure "tagging failed"), .refl _, by cbv, by cbv⟩

theorem appBuild_fits : (stepBuild appBuild []).address.utf8ByteSize ≤ maxAddress := by
  decide +kernel

theorem build_records_app :
    Spells [.output "Step 1", .image "sha256:one"] (outputLine ++ 10 :: imageLine) ∧
      (stepBuild appBuild []).address.utf8ByteSize ≤ maxAddress ∧
      (ContainerTasks.outcome (Client.build
        { answering (outputLine ++ 10 :: imageLine) with buildkit := true } {} appBuild)
          { state := () }).1.result =
        (ContainerTasks.outcome (Client.build
          { answering (outputLine ++ 10 :: imageLine) with buildkit := false } {} appBuild)
            { state := () }).1.result := by
  have spells : Spells [.output "Step 1", .image "sha256:one"] (outputLine ++ 10 :: imageLine) :=
    .cons outputLine_spelling (.last imageLine_spelling)
  have found : ∀ body, buildContext (answering body).store appBuild.directory = .ok [] :=
    fun _ => by cbv
  obtain ⟨steps, -, -, agree⟩ := @build_records Unit (answering _) appBuild [] { state := () } _ rfl
    (found _) _ spells appBuild_fits rfl rfl
  refine ⟨spells, appBuild_fits, agree.mpr ?_⟩
  rw [steps]
  rintro image names
  cases names
  exact ⟨by simp, rfl⟩

/-- The newer builder can name an image in spite of a failure. -/
theorem image_despite_failure :
    ¬ ∀ (client : Client Unit) (build : Engine.BuildRequest)
      (context : List (String × Files.Entry)) (session : Session Unit)
      (records : List BuildRecord) (body : Bytes),
      client.handed = id → buildContext client.store build.directory = .ok context →
      Spells records body → (stepBuild build context).address.utf8ByteSize ≤ maxAddress →
      (client.behaviour (stepBuild build context) session.state).1 = .received 200 body false →
      (client.behaviour (textBuild build context) session.state).1 = .received 200 body false →
      (ContainerTasks.outcome
        (Client.build { client with buildkit := true } {} build) session).1.result =
        (ContainerTasks.outcome
          (Client.build { client with buildkit := false } {} build) session).1.result := by
  intro agree
  have spells : Spells [.image "sha256:one", .failure "tagging failed"]
      (imageLine ++ 10 :: failureLine) :=
    .cons imageLine_spelling (.last failureLine_spelling)
  have found : ∀ body, buildContext (answering body).store appBuild.directory = .ok [] :=
    fun _ => by cbv
  have same := agree (answering (imageLine ++ 10 :: failureLine)) appBuild [] { state := () } _ _ rfl
    (found _) spells appBuild_fits rfl rfl
  rw [build_newer (found _) spells appBuild_fits rfl, build_older rfl (found _) spells rfl] at same
  cases same

end ContainerTasks.Daemon
