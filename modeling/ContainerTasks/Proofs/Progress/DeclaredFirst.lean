import Mathlib.Data.List.ReduceOption
import ContainerTasks.Proofs.Progress.Intake

/-! # Declarations come first

A payload holds entries of three kinds, vertices, operations and output, in any order. Reading
collects each kind on its own, and the records of the vertices come before all others. So how
the kinds are mixed does not matter, and what a payload says about a vertex that it declares
itself is not dropped, wherever in the payload the declaration stands (`decode_declaresFirst`).
-/

namespace ContainerTasks.Progress

open Codec

namespace Update

/-- The entries of a kind: the fields with its number, each as it is read. -/
def entries {α : Type} (number : Nat) (read : Wire.Value → Option α) (fields : List Wire.Field) :
    List (Option α) :=
  (fields.filter (·.number = number)).map fun field => read field.value

def vertexEntries (fields : List Wire.Field) : List (Option Vertex) :=
  entries 1 (Vertex.ofValue? (groupDepth - 1)) fields

def operationEntries (fields : List Wire.Field) : List (Option Operation) :=
  entries 2 (Operation.ofValue? (groupDepth - 1)) fields

def printedEntries (fields : List Wire.Field) : List (Option Printed) :=
  entries 3 (Printed.ofValue? (groupDepth - 1)) fields

theorem entries_concat {α : Type} (number : Nat) (read : Wire.Value → Option α)
    (fields : List Wire.Field) (field : Wire.Field) :
    entries number read (fields ++ [field]) =
      entries number read fields ++ if field.number = number then [read field.value] else [] := by
  rw [entries, List.filter_append, List.map_append, entries]
  by_cases same : field.number = number
  · rw [if_pos same, List.filter_cons_of_pos (by simpa using same)]
    rfl
  · rw [if_neg same, List.filter_cons_of_neg (by simpa using same)]
    rfl

/-- A field adds what it is read as to the entries of its kind. -/
theorem entries_addField {former update : Update} {field : Wire.Field}
    (added : former.addField field = some update) :
    update.vertices.map some = former.vertices.map some ++
        (if field.number = 1 then [Vertex.ofValue? (groupDepth - 1) field.value] else []) ∧
      update.operations.map some = former.operations.map some ++
        (if field.number = 2 then [Operation.ofValue? (groupDepth - 1) field.value] else []) ∧
      update.printed.map some = former.printed.map some ++
        (if field.number = 3 then [Printed.ofValue? (groupDepth - 1) field.value] else []) := by
  unfold addField at added
  split at added
  · rename_i kind
    obtain ⟨vertex, read, rfl⟩ := Option.map_eq_some_iff.mp added
    simp [kind, read]
  · rename_i kind
    obtain ⟨operation, read, rfl⟩ := Option.map_eq_some_iff.mp added
    simp [kind, read]
  · rename_i kind
    obtain ⟨printed, read, rfl⟩ := Option.map_eq_some_iff.mp added
    simp [kind, read]
  · rename_i first second third
    cases added
    simp [if_neg first, if_neg second, if_neg third]

/-- An update holds what its entries are read as, kind by kind. -/
theorem entries_of_read {fields : List Wire.Field} {update : Update}
    (read : fields.foldlM addField {} = some update) :
    vertexEntries fields = update.vertices.map some ∧
      operationEntries fields = update.operations.map some ∧
      printedEntries fields = update.printed.map some := by
  induction fields using List.reverseRecOn generalizing update with
  | nil =>
      cases read
      exact ⟨rfl, rfl, rfl⟩
  | append_singleton fields field ih =>
      rw [List.foldlM_append] at read
      obtain ⟨former, readFormer, readField⟩ := Option.bind_eq_some_iff.mp read
      obtain ⟨vertices, operations, printed⟩ := ih readFormer
      have added : former.addField field = some update := by simpa using readField
      obtain ⟨vertices', operations', printed'⟩ := entries_addField added
      rw [vertices', operations', printed', ← vertices, ← operations, ← printed]
      exact ⟨entries_concat .., entries_concat .., entries_concat ..⟩

/-- The entries of the three kinds make out what is read. -/
theorem eq_of_entries {fields others : List Wire.Field} {update update' : Update}
    (read : fields.foldlM addField {} = some update)
    (read' : others.foldlM addField {} = some update')
    (vertices : vertexEntries others = vertexEntries fields)
    (operations : operationEntries others = operationEntries fields)
    (printed : printedEntries others = printedEntries fields) : update' = update := by
  obtain ⟨ownVertices, ownOperations, ownPrinted⟩ := entries_of_read read
  obtain ⟨itsVertices, itsOperations, itsPrinted⟩ := entries_of_read read'
  rw [itsVertices, ownVertices] at vertices
  rw [itsOperations, ownOperations] at operations
  rw [itsPrinted, ownPrinted] at printed
  cases update
  cases update'
  congr 1
  · exact List.map_injective_iff.mpr (Option.some_injective _) vertices
  · exact List.map_injective_iff.mpr (Option.some_injective _) operations
  · exact List.map_injective_iff.mpr (Option.some_injective _) printed

end Update

namespace Record

/-- Which kind of entry a record comes from: vertices first, then operations, then output. -/
def stage : Record → Nat
  | .declared .. | .started .. | .completed .. => 0
  | .operated .. => 1
  | .printed .. => 2

/-- The fields that a payload is cut into, in the order in which they stand in it. -/
def cut? (payload : String) : Option (List Wire.Field) :=
  (Base64.decode? (Text.trimChars payload.toList)).bind (Wire.fields? groupDepth)

theorem decode_eq_ok_iff {payload : String} {records : List Record} :
    Record.decode payload = .ok records ↔
      ∃ fields update, cut? payload = some fields ∧
        fields.foldlM Update.addField {} = some update ∧ ofUpdate update = records := by
  unfold Record.decode
  constructor
  · intro read
    split at read
    · cases read
    · rename_i bytes raw
      split at read
      · cases read
      · rename_i update found
        cases read
        obtain ⟨fields, split, taken⟩ := Option.bind_eq_some_iff.mp found
        exact ⟨fields, update, by rw [cut?, raw, Option.bind_some, split], taken, rfl⟩
  · rintro ⟨fields, update, cut, taken, rfl⟩
    obtain ⟨bytes, raw, split⟩ := Option.bind_eq_some_iff.mp cut
    have found : Update.ofBytes? bytes = some update :=
      Option.bind_eq_some_iff.mpr ⟨fields, split, taken⟩
    simp only [raw, found]

theorem mem_ofVertex {vertex : Vertex} {record : Record} (member : record ∈ ofVertex vertex) :
    record.vertex = vertex.digest ∧ vertex.digest ≠ "" ∧ record.stage = 0 := by
  unfold ofVertex at member
  split at member
  · cases member
  · rename_i named
    have named' : vertex.digest ≠ "" := mt String.isEmpty_iff.mpr named
    simp only [List.mem_append, List.mem_singleton] at member
    obtain (rfl | member) | member := member
    · exact ⟨rfl, named', rfl⟩
    · split at member
      · obtain rfl := List.mem_singleton.mp member
        exact ⟨rfl, named', rfl⟩
      · cases member
    · split at member
      · obtain rfl := List.mem_singleton.mp member
        exact ⟨rfl, named', rfl⟩
      · cases member

theorem mem_ofOperation_iff {operation : Operation} {record : Record} :
    record ∈ ofOperation operation ↔ operation.vertex ≠ "" ∧
      record = .operated operation.vertex
        (if operation.id.isEmpty then operation.name else operation.id)
        operation.current operation.total operation.started.isSome operation.completed.isSome := by
  unfold ofOperation
  rw [List.mem_ite_nil_left, List.mem_singleton, String.isEmpty_iff]

theorem mem_ofPrinted_iff {output : Printed} {record : Record} :
    record ∈ ofPrinted output ↔ output.vertex ≠ "" ∧
      record = .printed output.vertex ((output.timestamp.map Timestamp.sinceEpoch).getD {})
        output.message := by
  unfold ofPrinted
  rw [List.mem_ite_nil_left, List.mem_singleton, String.isEmpty_iff]

/-- Every record is about a vertex. -/
theorem vertex_ne_of_mem {update : Update} {record : Record} (member : record ∈ ofUpdate update) :
    record.vertex ≠ "" := by
  simp only [ofUpdate, List.mem_append, List.mem_flatMap] at member
  obtain (⟨vertex, -, member⟩ | ⟨operation, -, member⟩) | ⟨output, -, member⟩ := member
  · obtain ⟨about, named, -⟩ := mem_ofVertex member
    rwa [about]
  · obtain ⟨named, rfl⟩ := mem_ofOperation_iff.mp member
    exact named
  · obtain ⟨named, rfl⟩ := mem_ofPrinted_iff.mp member
    exact named

/-- The records of an update come by the kinds of their entries. -/
theorem pairwise_stage (update : Update) :
    (ofUpdate update).Pairwise fun earlier later => earlier.stage ≤ later.stage := by
  have first : ∀ record ∈ update.vertices.flatMap ofVertex, record.stage = 0 := by
    intro record member
    obtain ⟨vertex, -, member⟩ := List.mem_flatMap.mp member
    exact (mem_ofVertex member).2.2
  have second : ∀ record ∈ update.operations.flatMap ofOperation, record.stage = 1 := by
    intro record member
    obtain ⟨operation, -, member⟩ := List.mem_flatMap.mp member
    obtain ⟨-, rfl⟩ := mem_ofOperation_iff.mp member
    rfl
  have third : ∀ record ∈ update.printed.flatMap ofPrinted, record.stage = 2 := by
    intro record member
    obtain ⟨output, -, member⟩ := List.mem_flatMap.mp member
    obtain ⟨-, rfl⟩ := mem_ofPrinted_iff.mp member
    rfl
  have alike {records : List Record} {stage : Nat}
      (same : ∀ record ∈ records, record.stage = stage) :
      records.Pairwise fun earlier later => earlier.stage ≤ later.stage := by
    refine List.pairwise_of_forall_mem_list fun earlier among later member => ?_
    rw [same earlier among, same later member]
  unfold ofUpdate
  refine List.pairwise_append.mpr ⟨List.pairwise_append.mpr ⟨alike first, alike second, ?_⟩,
    alike third, ?_⟩
  · intro earlier among later member
    rw [first earlier among, second later member]
    exact Nat.zero_le 1
  · intro earlier among later member
    rw [third later member]
    rcases List.mem_append.mp among with vertices | operations
    · rw [first earlier vertices]
      exact Nat.zero_le 2
    · rw [second earlier operations]
      exact Nat.le_succ 1

/-- Whether a vertex entry among the fields is about a vertex. -/
def Declares (fields : List Wire.Field) (vertex : String) : Prop :=
  ∃ declared, some declared ∈ Update.vertexEntries fields ∧ declared.digest = vertex

/-- What the operations and the output among the fields tell: the vertex of each, which may be
empty, and the records it gives. -/
def reports (fields : List Wire.Field) : List (String × List Record) :=
  (Update.operationEntries fields).reduceOption.map
      (fun operation => (operation.vertex, ofOperation operation)) ++
    (Update.printedEntries fields).reduceOption.map
      (fun output => (output.vertex, ofPrinted output))

/-- A report about a vertex gives one record, which shows the vertex at work. -/
theorem exists_of_mem_reports {fields : List Wire.Field} {update : Update}
    (taken : fields.foldlM Update.addField {} = some update) {vertex : String}
    {told : List Record} (report : (vertex, told) ∈ reports fields) (named : vertex ≠ "") :
    ∃ record ∈ ofUpdate update, told = [record] ∧ record.vertex = vertex ∧
      record.isActivity = true ∧ 0 < record.stage := by
  obtain ⟨-, operations, printed⟩ := Update.entries_of_read taken
  have empty : ¬ vertex.isEmpty := mt String.isEmpty_iff.mp named
  rw [reports, List.mem_append, List.mem_map, List.mem_map] at report
  simp only [List.reduceOption_mem_iff, operations, printed, List.mem_map, Option.some_inj,
    exists_eq_right, Prod.mk.injEq] at report
  obtain ⟨operation, sent, rfl, rfl⟩ | ⟨output, sent, rfl, rfl⟩ := report
  · refine ⟨_, ?_, if_neg empty, rfl, rfl, Nat.one_pos⟩
    refine List.mem_append_left _ (List.mem_append_right _ (List.mem_flatMap.mpr ⟨_, sent, ?_⟩))
    exact mem_ofOperation_iff.mpr ⟨named, rfl⟩
  · refine ⟨_, ?_, if_neg empty, rfl, rfl, Nat.two_pos⟩
    refine List.mem_append_right _ (List.mem_flatMap.mpr ⟨_, sent, ?_⟩)
    exact mem_ofPrinted_iff.mpr ⟨named, rfl⟩

/-- The vertices that entries declare are those that are declared among the records. -/
theorem declares_iff {fields : List Wire.Field} {update : Update}
    (taken : fields.foldlM Update.addField {} = some update) {vertex : String}
    (named : vertex ≠ "") :
    Declares fields vertex ↔ ∃ name, declared vertex name ∈ ofUpdate update := by
  obtain ⟨vertices, -, -⟩ := Update.entries_of_read taken
  simp only [Declares, vertices, List.mem_map, Option.some_inj, exists_eq_right]
  constructor
  · rintro ⟨entry, sent, rfl⟩
    refine ⟨entry.name, List.mem_append_left _ (List.mem_append_left _ ?_)⟩
    refine List.mem_flatMap.mpr ⟨entry, sent, ?_⟩
    rw [ofVertex, if_neg (mt String.isEmpty_iff.mp named)]
    exact List.mem_append_left _ (List.mem_append_left _ (List.mem_singleton_self _))
  · rintro ⟨name, member⟩
    simp only [ofUpdate, List.mem_append, List.mem_flatMap] at member
    obtain (⟨entry, sent, member⟩ | ⟨operation, -, member⟩) | ⟨output, -, member⟩ := member
    · exact ⟨entry, sent, (mem_ofVertex member).1.symm⟩
    · cases (mem_ofOperation_iff.mp member).2
    · cases (mem_ofPrinted_iff.mp member).2

end Record

namespace Tracker

variable {vertex : String}

theorem run_append_records (changes : List Change) (records : List Record) :
    run (changes ++ records.map .apply) = (run changes).applyAll records := by
  rw [run_append, List.foldl_map]
  rfl

theorem Change.declares_iff {change : Change} :
    change.declares vertex = true ↔ ∃ name, change = .apply (.declared vertex name) := by
  cases change with
  | sealStep index =>
      refine iff_of_false Bool.false_ne_true ?_
      rintro ⟨name, same⟩
      cases same
  | apply record =>
      rw [Change.declares, Change.about?]
      by_cases about : record.vertex = vertex
      · rw [if_pos about, Option.any_some]
        subst about
        cases record with
        | declared other name => exact iff_of_true rfl ⟨name, rfl⟩
        | started | completed | operated | printed =>
            refine iff_of_false Bool.false_ne_true ?_
            rintro ⟨name, same⟩
            cases same
      · rw [if_neg about, Option.any_none]
        refine iff_of_false Bool.false_ne_true ?_
        rintro ⟨name, same⟩
        cases same
        exact about rfl

/-- A vertex is known after changes and records if either declare it. -/
theorem isSome_declared_applyAll_run {changes : List Change} {records : List Record} :
    (((run changes).applyAll records).declared[vertex]?).isSome = true ↔
      (∃ name, .apply (.declared vertex name) ∈ changes) ∨
        ∃ name, Record.declared vertex name ∈ records := by
  rw [← run_append_records, isSome_declared_run, List.any_eq_true]
  simp only [Change.declares_iff, List.mem_append, List.mem_map]
  constructor
  · rintro ⟨change, told | ⟨record, member, rfl⟩, name, same⟩
    · exact Or.inl ⟨name, same ▸ told⟩
    · cases same
      exact Or.inr ⟨name, member⟩
  · rintro (⟨name, told⟩ | ⟨name, member⟩)
    · exact ⟨_, Or.inl told, name, rfl⟩
    · exact ⟨_, Or.inr ⟨_, member, rfl⟩, name, rfl⟩

theorem booked_applyAll_run (changes : List Change) (records : List Record) :
    ((run changes).applyAll records).Booked :=
  run_append_records changes records ▸ booked_run _

/-- A step, once there, stays. -/
theorem exists_step_append {tracker : Tracker} {front : List Record} {step : Step}
    (member : step ∈ (tracker.applyAll front).steps) (rest : List Record) :
    ∃ later ∈ (tracker.applyAll (front ++ rest)).steps, later.vertex = step.vertex := by
  obtain ⟨position, found⟩ := List.mem_iff_getElem?.mp member
  obtain ⟨later, present, growth⟩ := applyAll_grows _ rest position step found
  refine ⟨later, ?_, growth.vertex⟩
  rw [applyAll, List.foldl_append]
  exact List.mem_of_getElem? present

/-- The step of a record's vertex takes the record in: one that is there, or one that begins with
the record. -/
def Takes (tracker : Tracker) (record : Record) : Prop :=
  ∃ step ∈ tracker.steps ++ (tracker.newcomer? (.apply record)).toList,
    step.vertex = record.vertex ∧ step.take record ∈ (tracker.apply record).steps

/-- Work on a declared vertex is taken in by its step. -/
theorem Booked.takes {tracker : Tracker} (booked : tracker.Booked) {record : Record}
    (activity : record.isActivity = true)
    (known : (tracker.declared[record.vertex]?).isSome = true) : tracker.Takes record := by
  have present : ∃ step ∈ tracker.steps ++ (tracker.newcomer? (.apply record)).toList,
      step.vertex = record.vertex := by
    by_cases old : record.vertex ∈ tracker.steps.map Step.vertex
    · obtain ⟨step, member, same⟩ := List.mem_map.mp old
      exact ⟨step, List.mem_append_left _ member, same⟩
    · have work : (Change.work? record.vertex (.apply record)).isSome = true := by
        rw [Change.work?_eq_some_iff.mpr ⟨rfl, rfl, activity⟩, Option.isSome_some]
      obtain ⟨new, begins, same⟩ := exists_newcomer_iff.mpr ⟨work, old, known⟩
      exact ⟨new, List.mem_append_right _ (Option.mem_toList.mpr begins), same⟩
  obtain ⟨step, member, same⟩ := present
  refine ⟨step, member, same, ?_⟩
  have later := List.mem_map_of_mem (f := (·.undergo (.apply record))) member
  rw [← booked.steps_change] at later
  rwa [Step.undergo, if_pos same] at later

/-- A vertex that is not known has no step. -/
theorem vertex_ne_of_unknown {changes : List Change} {records : List Record}
    (unknown : ¬ (((run changes).applyAll records).declared[vertex]?).isSome = true) :
    ∀ step ∈ ((run changes).applyAll records).steps, step.vertex ≠ vertex := by
  rintro step member rfl
  rw [(booked_applyAll_run changes records).named step member] at unknown
  exact unknown rfl

/-- A record is taken in wherever it stands among records, and from then on its vertex has a
step. -/
def TakesIn (tracker : Tracker) (records : List Record) (record : Record) : Prop :=
  (∀ front, front ++ [record] <+: records → (tracker.applyAll front).Takes record) ∧
    ∀ front, front <+: records → record ∈ front →
      ∃ step ∈ (tracker.applyAll front).steps, step.vertex = record.vertex

/-- A record changes nothing, and its vertex has no step before or after it. -/
def Drops (tracker : Tracker) (records : List Record) (record : Record) : Prop :=
  (∀ front, front ++ [record] <+: records →
      tracker.applyAll (front ++ [record]) = tracker.applyAll front) ∧
    ∀ front, front <+: records →
      ∀ step ∈ (tracker.applyAll front).steps, step.vertex ≠ record.vertex

/-- A vertex is declared by what has been done to a tracker, or by one of the records. -/
def Knows (changes : List Change) (records : List Record) (vertex : String) : Prop :=
  (∃ name, .apply (.declared vertex name) ∈ changes) ∨ ∃ name, .declared vertex name ∈ records

variable {changes : List Change} {records : List Record} {record : Record}

/-- Work on a known vertex is taken in when declarations come first. -/
theorem takesIn_of_knows
    (ordered : records.Pairwise fun earlier later => earlier.stage ≤ later.stage)
    (activity : record.isActivity = true) (late : 0 < record.stage)
    (knows : Knows changes records record.vertex) : (run changes).TakesIn records record := by
  have takes : ∀ front, front ++ [record] <+: records →
      ((run changes).applyAll front).Takes record := by
    rintro front ⟨back, rfl⟩
    refine (booked_applyAll_run changes front).takes activity
      (isSome_declared_applyAll_run.mpr (knows.imp_right ?_))
    rintro ⟨name, member⟩
    rw [List.append_assoc, List.singleton_append] at ordered member
    refine ⟨name, (List.mem_append.mp member).resolve_right fun behind => ?_⟩
    -- A declaration comes at the first stage, so none stands behind the record.
    rcases List.mem_cons.mp behind with same | after
    · rw [← same] at activity
      cases activity
    · have least := List.rel_of_pairwise_cons (List.pairwise_append.mp ordered).2.1 after
      exact Nat.not_le_of_lt late least
  refine ⟨takes, fun front part among => ?_⟩
  obtain ⟨before, rest, rfl⟩ := List.append_of_mem among
  have own : before ++ [record] <+: before ++ record :: rest :=
    ⟨rest, by rw [List.append_assoc, List.singleton_append]⟩
  obtain ⟨step, -, same, taken⟩ := takes before (own.trans part)
  rw [← applyAll_concat] at taken
  obtain ⟨later, member, keeps⟩ := exists_step_append taken rest
  rw [List.append_assoc, List.singleton_append] at member
  exact ⟨later, member, keeps.trans ((step.take_keeps record).1.trans same)⟩

/-- Work on a vertex that is not known leaves no trace. -/
theorem drops_of_unknown (activity : record.isActivity = true)
    (unknown : ¬ Knows changes records record.vertex) : (run changes).Drops records record := by
  have undeclared {front : List Record} (part : front <+: records) :
      ¬ (((run changes).applyAll front).declared[record.vertex]?).isSome = true := by
    intro declared
    refine unknown ((isSome_declared_applyAll_run.mp declared).imp_right ?_)
    rintro ⟨name, member⟩
    exact ⟨name, part.subset member⟩
  refine ⟨fun front part => ?_, fun front part => vertex_ne_of_unknown (undeclared part)⟩
  rw [applyAll_concat]
  refine (booked_applyAll_run changes front).apply_of_undeclared activity ?_
  have former := undeclared ((List.prefix_append front [record]).trans part)
  rwa [Bool.not_eq_true, Option.isSome_eq_false_iff, Option.isNone_iff_eq_none] at former

end Tracker

/-- **Declarations come first.** What a payload is read as depends on the entries of each kind
and not on how the kinds are mixed: no record is without a vertex, and the vertices come before
the operations and these before the output. Whatever a tracker has taken in, a report about a
vertex is taken in at its place if the vertex was declared earlier or by an entry anywhere in the
payload, and otherwise leaves no trace. -/
theorem Record.decode_declaresFirst {payload : String} {records : List Record}
    (read : Record.decode payload = .ok records) :
    ∃ fields, Record.cut? payload = some fields ∧
      (∀ {other : String} {fields' : List Wire.Field} {records' : List Record},
        Record.cut? other = some fields' → Record.decode other = .ok records' →
          Update.vertexEntries fields' = Update.vertexEntries fields →
          Update.operationEntries fields' = Update.operationEntries fields →
          Update.printedEntries fields' = Update.printedEntries fields → records' = records) ∧
      (∀ record ∈ records, record.vertex ≠ "") ∧
      records.Pairwise (fun earlier later => earlier.stage ≤ later.stage) ∧
      ∀ {vertex : String} {told : List Record}, (vertex, told) ∈ Record.reports fields →
        vertex ≠ "" → ∃ record ∈ records, told = [record] ∧ record.vertex = vertex ∧
          0 < record.stage ∧ ∀ changes : List Tracker.Change,
            let known :=
              (∃ name, .apply (.declared vertex name) ∈ changes) ∨ Record.Declares fields vertex
            (known → (Tracker.run changes).TakesIn records record) ∧
              (¬ known → (Tracker.run changes).Drops records record) := by
  obtain ⟨fields, update, cut, taken, rfl⟩ := Record.decode_eq_ok_iff.mp read
  refine ⟨fields, cut, ?_, fun _ => Record.vertex_ne_of_mem, Record.pairwise_stage update, ?_⟩
  · intro other fields' records' cut' read' vertices operations printed
    obtain ⟨_, update', again, taken', rfl⟩ := Record.decode_eq_ok_iff.mp read'
    obtain rfl := Option.some.inj (again.symm.trans cut')
    rw [Update.eq_of_entries taken taken' vertices operations printed]
  · intro vertex told report named
    obtain ⟨record, member, rfl, rfl, activity, late⟩ :=
      Record.exists_of_mem_reports taken report named
    refine ⟨record, member, rfl, rfl, late, fun changes => ?_⟩
    rw [Record.declares_iff taken named]
    exact ⟨Tracker.takesIn_of_knows (Record.pairwise_stage update) activity late,
      Tracker.drops_of_unknown activity⟩

/-- What is read of a payload that tells of an operation of one vertex and of output of another
one before it declares the first. -/
def mixed : List Record :=
  [.declared "v" "", .operated "v" "l" 0 0 false false, .printed "w" {} []]

theorem Record.decode_declaresFirst_mixed :
    Record.decode "EgYKAWwSAXYaAwoBdwoDCgF2" = .ok mixed ∧
      Record.cut? "EgYKAWwSAXYaAwoBdwoDCgF2" =
        some [⟨2, .delimited [10, 1, 108, 18, 1, 118]⟩, ⟨3, .delimited [10, 1, 119]⟩,
          ⟨1, .delimited [10, 1, 118]⟩] ∧
      (Tracker.run []).TakesIn mixed (.operated "v" "l" 0 0 false false) ∧
      (Tracker.run []).Drops mixed (.printed "w" {} []) := by
  have read : Record.decode "EgYKAWwSAXYaAwoBdwoDCgF2" = .ok mixed := by decide +kernel
  obtain ⟨fields, cut, -, -, -, reported⟩ := Record.decode_declaresFirst read
  have shape : Record.cut? "EgYKAWwSAXYaAwoBdwoDCgF2" =
      some [⟨2, .delimited [10, 1, 108, 18, 1, 118]⟩, ⟨3, .delimited [10, 1, 119]⟩,
        ⟨1, .delimited [10, 1, 118]⟩] := by decide +kernel
  obtain rfl := Option.some.inj (cut.symm.trans shape)
  refine ⟨read, shape, ?_, ?_⟩
  · obtain ⟨record, -, told, -, -, settled⟩ := reported
      (show ("v", [.operated "v" "l" 0 0 false false]) ∈ _ by decide +kernel) (by decide)
    obtain rfl := List.singleton_inj.mp told
    exact (settled []).1 (Or.inr ⟨{ digest := "v" }, by decide +kernel, rfl⟩)
  · obtain ⟨record, -, told, -, -, settled⟩ := reported
      (show ("w", [.printed "w" {} []]) ∈ _ by decide +kernel) (by decide)
    obtain rfl := List.singleton_inj.mp told
    refine (settled []).2 ?_
    rintro (⟨name, member⟩ | ⟨declared, member, about⟩)
    · cases member
    · have only : Update.vertexEntries [⟨2, .delimited [10, 1, 108, 18, 1, 118]⟩,
          ⟨3, .delimited [10, 1, 119]⟩, ⟨1, .delimited [10, 1, 118]⟩] =
          [some { digest := "v" }] := by decide +kernel
      rw [only, List.mem_singleton, Option.some_inj] at member
      rw [member] at about
      exact absurd about (by decide)

end ContainerTasks.Progress
