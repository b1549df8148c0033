import ContainerTasks.Daemon.Build
import ContainerTasks.Project.Override
import ContainerTasks.Proofs.Codec.Percent
import ContainerTasks.Proofs.Json.Quoting
import ContainerTasks.Proofs.Daemon.Conversation
import ContainerTasks.Proofs.Project.OverrideTexts
import ContainerTasks.Proofs.Tables

/-! # What the address of a build request says

The address of a request is cut at ampersands, each part of its query at the first equals
sign, and the values are decoded. This gives back the parameters, whatever characters are in
their values (`readQuery?_encodeQuery`); and the arguments of a build are read back from the
JSON text that is the value of one of them. So the address of a request for a build by the
newer builder gives back the tag, the build file and the arguments, and no two requests that
differ in one of these have the same address (`buildQuery_exact`).
-/

namespace ContainerTasks

namespace Text

variable {mark : Char} {part : List Char}

theorem cutAt_unbroken (unbroken : mark ∉ part) : cutAt mark part = [part] := by
  induction part with
  | nil => rfl
  | cons c rest ih =>
      obtain ⟨other, unbroken⟩ := not_or.mp (mt List.mem_cons.mpr unbroken)
      rw [cutAt, if_neg (Ne.symm other), ih unbroken]

theorem cutAt_append (unbroken : mark ∉ part) (rest : List Char) :
    cutAt mark (part ++ mark :: rest) = part :: cutAt mark rest := by
  induction part with
  | nil => exact if_pos rfl
  | cons c more ih =>
      obtain ⟨other, unbroken⟩ := not_or.mp (mt List.mem_cons.mpr unbroken)
      rw [List.cons_append, cutAt, if_neg (Ne.symm other), ih unbroken]

/-- Parts that a mark is put between are what a cut at the mark gives back. -/
theorem cutAt_intercalate {parts : List (List Char)} (inhabited : parts ≠ [])
    (unbroken : ∀ part ∈ parts, mark ∉ part) :
    cutAt mark ([mark].intercalate parts) = parts := by
  induction parts with
  | nil => exact (inhabited rfl).elim
  | cons part rest ih =>
      obtain ⟨first, unbroken⟩ := List.forall_mem_cons.mp unbroken
      cases rest with
      | nil => rw [List.intercalate_singleton, cutAt_unbroken first]
      | cons next more =>
          rw [List.intercalate_cons_cons, List.append_assoc, List.singleton_append,
            cutAt_append first, ih (List.cons_ne_nil next more) unbroken]

end Text

namespace Daemon

open Codec Engine

/-- The parameter that a part of a query says. -/
def readParameter? (part : List Char) : Option (String × String) := do
  let (name, value) ← Project.cutAtEquals part
  let bytes ← Percent.decode? value
  return (String.ofList name, ← Text.Utf8.toString? bytes)

/-- The parameters that a query says. -/
def readQuery? (query : String) : Option (List (String × String)) :=
  (Text.cutAt '&' query.toList).mapM readParameter?

/-- The arguments of a build that a JSON text says. -/
def readArguments? (text : String) : Option TextMap := do
  let members ← (← Json.parse? text).members?
  let entries ← members.mapM fun (name, value) => value.text?.map (name, ·)
  return .ofList entries

/-- A parameter as it stands in a query. -/
def parameterText (parameter : String × String) : String :=
  parameter.1 ++ "=" ++ Percent.encode parameter.2

section Reading

variable {parameter : String × String}

theorem toList_parameterText (parameter : String × String) : (parameterText parameter).toList =
    parameter.1.toList ++ '=' :: (Percent.encode parameter.2).toList := by
  rw [parameterText, String.toList_append, String.toList_append, List.append_assoc]
  rfl

/-- A parameter is read back from how it stands in a query. -/
theorem readParameter?_parameterText (unsigned : '=' ∉ parameter.1.toList) :
    readParameter? (parameterText parameter).toList = some parameter := by
  rw [readParameter?, toList_parameterText, Project.cutAtEquals_append unsigned]
  simp only [Option.bind_eq_bind, Option.bind_some, Percent.decode?_encode,
    Text.Utf8.toString?_ofString, String.ofList_toList, Option.pure_def]

/-- Only the name of a parameter can bring an ampersand into a query. -/
theorem not_mem_parameterText (unmarked : '&' ∉ parameter.1.toList) :
    '&' ∉ (parameterText parameter).toList := by
  rw [toList_parameterText, List.mem_append, List.mem_cons]
  rintro (inName | sign | inValue)
  · exact unmarked inName
  · cases sign
  · exact absurd (Percent.isWritten_of_mem inValue) (by decide)

end Reading

theorem mapM_eq_some {α β : Type} {read : β → Option α} {write : α → β} {items : List α}
    (reads : ∀ item ∈ items, read (write item) = some item) :
    (items.map write).mapM read = some items := by
  induction items with
  | nil => rfl
  | cons item rest ih =>
      obtain ⟨first, reads⟩ := List.forall_mem_cons.mp reads
      rw [List.map_cons, List.mapM_cons, first, ih reads]
      rfl

/-- Parameters are read back from the query they are put into, whatever their values are, if
their names hold neither of the two marks. -/
theorem readQuery?_encodeQuery {parameters : List (String × String)}
    (inhabited : parameters ≠ [])
    (plain : ∀ parameter ∈ parameters,
      '&' ∉ parameter.1.toList ∧ '=' ∉ parameter.1.toList) :
    readQuery? (encodeQuery parameters) = some parameters := by
  have parts : (encodeQuery parameters).toList =
      ['&'].intercalate (parameters.map fun parameter => (parameterText parameter).toList) := by
    rw [encodeQuery, String.toList_intercalate, List.map_map]
    rfl
  have unbroken : ∀ part ∈ parameters.map fun parameter => (parameterText parameter).toList,
      '&' ∉ part := by
    refine List.forall_mem_map.mpr fun parameter member => ?_
    exact not_mem_parameterText (plain parameter member).1
  rw [readQuery?, parts, Text.cutAt_intercalate (by simpa using inhabited) unbroken]
  exact mapM_eq_some fun parameter member =>
    readParameter?_parameterText (plain parameter member).2

/-- The arguments of a build are read back from their text. -/
theorem readArguments?_argumentsText (arguments : TextMap) :
    readArguments? (argumentsText arguments) = some arguments := by
  have parses : Json.parse? (argumentsText arguments) =
      some (.object (Json.texts arguments.toList)) := Json.parse?_render_texts arguments.toList
  have entries : (Json.texts arguments.toList).mapM
      (fun (name, value) => value.text?.map ((name, ·) : String → String × String)) =
        some arguments.toList := mapM_eq_some fun _ _ => rfl
  rw [readArguments?, parses]
  simp only [Option.bind_eq_bind, Option.bind_some, Json.members?, entries, Option.pure_def,
    ofList_toList]

/-- The query of the request for a build by the newer builder. -/
def buildQuery (build : BuildRequest) : String :=
  encodeQuery (stepBuild build []).parameters

/-- The query of a build request says its parameters. -/
theorem readQuery?_buildQuery (build : BuildRequest) :
    readQuery? (buildQuery build) =
      some [("version", "2"), ("t", build.tag), ("dockerfile", build.dockerfile),
        ("buildargs", argumentsText build.arguments), ("rm", "1")] := by
  refine readQuery?_encodeQuery (List.cons_ne_nil _ _) ?_
  simp only [stepBuild, List.forall_mem_cons]
  exact ⟨by decide, by decide, by decide, by decide, by decide, by simp⟩

variable {first second : BuildRequest}

/-- Build requests with the same query agree in all that it says. -/
theorem eq_of_buildQuery (same : buildQuery first = buildQuery second) :
    first.tag = second.tag ∧ first.dockerfile = second.dockerfile ∧
      first.arguments = second.arguments := by
  have parameters := readQuery?_buildQuery first
  rw [same, readQuery?_buildQuery second] at parameters
  simp only [Option.some.injEq, List.cons.injEq, Prod.mk.injEq, true_and, and_true] at parameters
  obtain ⟨tag, dockerfile, text⟩ := parameters
  have arguments := readArguments?_argumentsText first.arguments
  rw [← text, readArguments?_argumentsText] at arguments
  exact ⟨tag.symm, dockerfile.symm, (Option.some.inj arguments).symm⟩

/-- A build by the newer builder sends one request, unless its address is too long. -/
theorem Client.sent_build {δ : Type} {client : Client δ} {build : BuildRequest}
    {context : List (String × Files.Entry)} (newer : client.buildkit = true)
    (archived : buildContext client.store build.directory = .ok context)
    (conditions : Progress.Response.Conditions) (session : Session δ) :
    (ContainerTasks.outcome (client.build conditions build) session).2.sent =
      session.sent ++ if (stepBuild build context).address.utf8ByteSize ≤ maxAddress then
        [stepBuild build context] else [] := by
  rw [Client.build, archived]
  dsimp only
  rw [if_pos newer, Client.buildInSteps_eq]
  by_cases fits : (stepBuild build context).address.utf8ByteSize ≤ maxAddress
  · rw [if_neg (Nat.not_lt_of_le fits), if_pos fits, outcome_seq]
    rfl
  · rw [if_pos (Nat.lt_of_not_le fits), if_neg fits, List.append_nil]
    rfl

/-- **Build parameters.** Whatever characters the tag, the build file and the arguments of a
build hold: the query of its request, cut at ampersands and at the first equals sign of each
part and decoded, gives back these and nothing else, the arguments as a JSON text that is read
as just these arguments. So no two requests that differ in one of them have the same query.
And this query is what the newer builder is sent, in the address of one request, unless this
address is too long to be sent. -/
theorem buildQuery_exact (build : BuildRequest) :
    (∃ text,
      readQuery? (buildQuery build) =
        some [("version", "2"), ("t", build.tag), ("dockerfile", build.dockerfile),
          ("buildargs", text), ("rm", "1")] ∧
      readArguments? text = some build.arguments) ∧
    (∀ other, buildQuery other = buildQuery build →
      other.tag = build.tag ∧ other.dockerfile = build.dockerfile ∧
        other.arguments = build.arguments) ∧
    ∀ {δ : Type} (client : Client δ) (conditions : Progress.Response.Conditions)
      (session : Session δ) (context : List (String × Files.Entry)),
      client.buildkit = true → buildContext client.store build.directory = .ok context →
        ∃ request, request.address = "/build?" ++ buildQuery build ∧
          (ContainerTasks.outcome (client.build conditions build) session).2.sent =
            session.sent ++
              if request.address.utf8ByteSize ≤ maxAddress then [request] else [] := by
  refine ⟨⟨_, readQuery?_buildQuery build, readArguments?_argumentsText build.arguments⟩,
    fun other same => eq_of_buildQuery same, ?_⟩
  intro δ client conditions session context newer archived
  exact ⟨stepBuild build context, rfl, Client.sent_build newer archived conditions session⟩

/-- A build whose parameters hold all the marks. -/
def markedBuild : BuildRequest where
  directory := "/app"
  dockerfile := "a b/%41+é#"
  arguments := .ofList [("A&B", "\"1\" = 2\n"), ("é", "")]
  tag := "x&t=y"

theorem buildQuery_exact_marked :
    let client : Client Unit := {
      behaviour := fun _ state => (.dropped, state)
      store := { entries := [(["app"], .directory)] } }
    let query := "version=2&t=x%26t%3Dy&dockerfile=a%20b%2F%2541%2B%C3%A9%23&buildargs=" ++
      "%7B%22A%26B%22%3A%22%5C%221%5C%22%20%3D%202%5Cn%22%2C%22%C3%A9%22%3A%22%22%7D&rm=1"
    let elsewhere := { markedBuild with directory := "/other" }
    buildQuery markedBuild = query ∧ buildQuery elsewhere = query ∧
      (∃ text, readQuery? query = some [("version", "2"), ("t", "x&t=y"),
          ("dockerfile", "a b/%41+é#"), ("buildargs", text), ("rm", "1")] ∧
        readArguments? text = some markedBuild.arguments) ∧
      elsewhere.arguments = markedBuild.arguments ∧
      buildContext client.store markedBuild.directory = .ok [] ∧
      ∃ request, request.address = "/build?" ++ query ∧
        (ContainerTasks.outcome (client.build {} markedBuild) { state := () }).2.sent =
          [request] := by
  intro client query elsewhere
  have same : buildQuery markedBuild = query := by decide +kernel
  have found : buildContext client.store markedBuild.directory = .ok [] := by
    rw [buildContext, if_pos (by decide +kernel)]
    exact congrArg Except.ok (List.isEmpty_iff.mp (by decide +kernel))
  obtain ⟨reads, distinct, sends⟩ := buildQuery_exact markedBuild
  obtain ⟨-, -, arguments⟩ := distinct elsewhere rfl
  obtain ⟨request, address, sent⟩ := sends client {} { state := () } [] rfl found
  rw [same] at reads address
  have fits : request.address.utf8ByteSize ≤ maxAddress := by
    rw [address]
    decide +kernel
  rw [if_pos fits] at sent
  exact ⟨same, same, reads, arguments, found, request, address, sent⟩

end Daemon

end ContainerTasks
