import Mathlib.Algebra.Order.Ring.Int
import ContainerTasks.Proofs.Settings.Overlay
import ContainerTasks.Settings.Basic

/-! # What settings are read from

Each setting has a place in a section and a kind that says which values it may have. A tree that
holds every section once as a table, and in them every setting once, stands for settings exactly
if every value is of the kind of its setting, and then for the settings with these values
(`ofTree?_eq_some_iff`, `exists_ofTree?_iff`).
-/

namespace ContainerTasks.Settings

/-- What kind of value a setting has. -/
inductive Kind
  | text
  | format
  | flag
  | natural
  | signed

/-- A value is of a kind. Numbers have 64 bits. -/
def Kind.Admits (value : Tree) : Kind → Prop
  | text => ∃ content, value = .text content
  | format => ∃ form : LogFormat, value = .text form.name
  | flag => ∃ state, value = .bool state
  | natural => ∃ n : Nat, n < 2 ^ 64 ∧ value = .integer n
  | signed => ∃ n : Int, -2 ^ 63 ≤ n ∧ n < 2 ^ 63 ∧ value = .integer n

theorem Kind.exists_of_natural {value : Tree} (admitted : Kind.natural.Admits value) :
    ∃ n : UInt64, value = .integer n.toNat := by
  obtain ⟨n, fits, rfl⟩ := admitted
  exact ⟨.ofNat n, by rw [UInt64.toNat_ofNat_of_lt' fits]⟩

/-- The settings one by one. -/
inductive Setting
  | logLevel
  | logFormat
  | noColor
  | socket
  | timeout
  | buildkit
  | streamPassthrough
  | maxParallelism
  | cleanupAfterSuccess
  | cleanupAfterFailure
  | stopTimeout

/-- The names of the sections. -/
def sectionNames : List String := ["general", "docker", "execution"]

namespace Setting

/-- The section of a setting. -/
def sectionName : Setting → String
  | logLevel | logFormat | noColor => "general"
  | socket | timeout | buildkit | streamPassthrough => "docker"
  | maxParallelism | cleanupAfterSuccess | cleanupAfterFailure | stopTimeout => "execution"

/-- The name of a setting in its section. -/
def name : Setting → String
  | logLevel => "log_level"
  | logFormat => "log_format"
  | noColor => "no_color"
  | socket => "socket"
  | timeout => "timeout"
  | buildkit => "buildkit"
  | streamPassthrough => "stream_passthrough"
  | maxParallelism => "max_parallelism"
  | cleanupAfterSuccess => "cleanup_after_success"
  | cleanupAfterFailure => "cleanup_after_failure"
  | stopTimeout => "stop_timeout"

/-- The kind of a setting. -/
def kind : Setting → Kind
  | logLevel | socket => .text
  | logFormat => .format
  | noColor | buildkit | streamPassthrough | cleanupAfterSuccess | cleanupAfterFailure => .flag
  | timeout | maxParallelism => .natural
  | stopTimeout => .signed

/-- The value of a setting, as it is written. -/
def value (settings : Settings) : Setting → Tree
  | logLevel => .text settings.general.logLevel
  | logFormat => .text settings.general.logFormat.name
  | noColor => .bool settings.general.noColor
  | socket => .text settings.docker.socket
  | timeout => .integer settings.docker.timeout.toNat
  | buildkit => .bool settings.docker.buildkit
  | streamPassthrough => .bool settings.docker.streamPassthrough
  | maxParallelism => .integer settings.execution.maxParallelism.toNat
  | cleanupAfterSuccess => .bool settings.execution.cleanupAfterSuccess
  | cleanupAfterFailure => .bool settings.execution.cleanupAfterFailure
  | stopTimeout => .integer settings.execution.stopTimeout

/-- The values that a tree gives to a setting, in their order. -/
def given (setting : Setting) (tree : Tree) : List Tree :=
  tree.within setting.sectionName setting.name

theorem sectionName_mem (setting : Setting) : setting.sectionName ∈ sectionNames := by
  cases setting <;> decide

/-- Settings written as a tree give each setting its value. -/
theorem given_toTree (settings : Settings) (setting : Setting) :
    setting.given settings.toTree = [setting.value settings] := by
  cases setting <;> rfl

end Setting

section Readers

variable {tree : Tree}

theorem text?_eq_some_iff {content : String} :
    tree.text? = some content ↔ tree = .text content := by
  cases tree <;> simp [Tree.text?]

theorem bool?_eq_some_iff {state : Bool} : tree.bool? = some state ↔ tree = .bool state := by
  cases tree <;> simp [Tree.bool?]

theorem integer?_eq_some_iff {n : Int} : tree.integer? = some n ↔ tree = .integer n := by
  cases tree <;> simp [Tree.integer?]

theorem ofName?_eq_some_iff {name : String} {format : LogFormat} :
    LogFormat.ofName? name = some format ↔ name = format.name := by
  constructor
  · intro found
    rw [LogFormat.ofName?] at found
    have named := List.find?_some found
    exact (of_decide_eq_true named).symm
  · rintro rfl
    cases format <;> rfl

theorem unsigned?_eq_some_iff {n : UInt64} :
    unsigned? tree = some n ↔ tree = .integer n.toNat := by
  unfold unsigned?
  constructor
  · intro read
    obtain ⟨k, held, inside⟩ := Option.bind_eq_some_iff.mp read
    rw [Option.ite_none_right_eq_some] at inside
    obtain ⟨inside, same⟩ := inside
    obtain rfl := Option.some.inj same
    simp only [Bool.and_eq_true, decide_eq_true_eq] at inside
    rw [integer?_eq_some_iff.mp held, UInt64.toNat_ofNat_of_lt' inside.2,
      Int.toNat_of_nonneg inside.1]
  · rintro rfl
    have fits : (decide (0 ≤ (n.toNat : Int)) && decide ((n.toNat : Int).toNat < UInt64.size)) =
        true := by
      simpa using n.toNat_lt
    refine (if_pos fits).trans (congrArg some ?_)
    rw [Int.toNat_natCast, UInt64.ofNat_toNat]

theorem signed?_eq_some_iff {n : Int} :
    signed? tree = some n ↔ -2 ^ 63 ≤ n ∧ n < 2 ^ 63 ∧ tree = .integer n := by
  have low : Int64.minValue.toInt = -2 ^ 63 := rfl
  have high : Int64.maxValue.toInt = 2 ^ 63 - 1 := rfl
  rw [signed?, Option.filter_eq_some_iff, integer?_eq_some_iff, low, high]
  simp only [Bool.and_eq_true, decide_eq_true_eq]
  constructor
  · rintro ⟨held, least, most⟩
    exact ⟨least, by omega, held⟩
  · rintro ⟨least, most, held⟩
    exact ⟨held, least, by omega⟩

end Readers

/-- A section holds a value of a kind under a name, before others of this name. -/
def Holds (kind : Kind) (name : String) (value : Tree) (entries : List (String × Tree)) : Prop :=
  (Tree.valuesOf name entries).head? = some value ∧ kind.Admits value

section Sections

variable {entries : List (String × Tree)} {name : String}

/-- What is read under a name is what is held there. -/
theorem holds_iff {α : Type} {read : Tree → Option α} {found : α} {kind : Kind} {value : Tree}
    (reads : ∀ tree, read tree = some found ↔ tree = value ∧ kind.Admits value) :
    (entries.lookup name).bind read = some found ↔ Holds kind name value entries := by
  rw [Tree.lookup_eq_head?, Option.bind_eq_some_iff]
  constructor
  · rintro ⟨tree, first, read⟩
    obtain ⟨rfl, admitted⟩ := (reads tree).mp read
    exact ⟨first, admitted⟩
  · rintro ⟨first, admitted⟩
    exact ⟨value, first, (reads value).mpr ⟨rfl, admitted⟩⟩

theorem holds_text_iff {content : String} :
    (entries.lookup name).bind Tree.text? = some content ↔
      Holds .text name (.text content) entries :=
  holds_iff fun _ => text?_eq_some_iff.trans (and_iff_left ⟨content, rfl⟩).symm

theorem holds_flag_iff {state : Bool} :
    (entries.lookup name).bind Tree.bool? = some state ↔
      Holds .flag name (.bool state) entries :=
  holds_iff fun _ => bool?_eq_some_iff.trans (and_iff_left ⟨state, rfl⟩).symm

theorem holds_format_iff {format : LogFormat} :
    ((entries.lookup name).bind Tree.text?).bind LogFormat.ofName? = some format ↔
      Holds .format name (.text format.name) entries := by
  rw [Option.bind_assoc]
  refine holds_iff fun tree => ?_
  simp only [Option.bind_eq_some_iff, text?_eq_some_iff, ofName?_eq_some_iff]
  constructor
  · rintro ⟨other, held, rfl⟩
    exact ⟨held, format, rfl⟩
  · rintro ⟨held, -⟩
    exact ⟨format.name, held, rfl⟩

theorem holds_natural_iff {n : UInt64} :
    (entries.lookup name).bind unsigned? = some n ↔
      Holds .natural name (.integer n.toNat) entries :=
  holds_iff fun _ => unsigned?_eq_some_iff.trans (and_iff_left ⟨_, n.toNat_lt, rfl⟩).symm

theorem holds_signed_iff {n : Int} :
    (entries.lookup name).bind signed? = some n ↔ Holds .signed name (.integer n) entries := by
  refine holds_iff fun tree => ?_
  rw [signed?_eq_some_iff]
  constructor
  · rintro ⟨least, most, held⟩
    exact ⟨held, n, least, most, rfl⟩
  · rintro ⟨held, m, least, most, same⟩
    obtain rfl := Tree.integer.inj same
    exact ⟨least, most, held⟩

variable {settings : Settings}

/-- The entries of a section hold the value that settings have for a setting. -/
def Setting.HeldIn (setting : Setting) (entries : List (String × Tree)) (settings : Settings) :
    Prop :=
  Holds setting.kind setting.name (setting.value settings) entries

theorem General.ofTree?_eq_some_iff :
    General.ofTree? (.table entries) = some settings.general ↔
      Setting.logLevel.HeldIn entries settings ∧ Setting.logFormat.HeldIn entries settings ∧
        Setting.noColor.HeldIn entries settings := by
  simp only [Setting.HeldIn, Setting.kind, Setting.name, Setting.value, ← holds_text_iff,
    ← holds_format_iff, ← holds_flag_iff]
  generalize settings.general = general
  constructor
  · intro read
    obtain ⟨level, logLevel, read⟩ := Option.bind_eq_some_iff.mp read
    obtain ⟨format, logFormat, read⟩ := Option.bind_eq_some_iff.mp read
    obtain ⟨color, noColor, read⟩ := Option.bind_eq_some_iff.mp read
    cases read
    exact ⟨logLevel, logFormat, noColor⟩
  · rintro ⟨logLevel, logFormat, noColor⟩
    simp only [General.ofTree?, entriesOf?, Option.bind_eq_bind, Option.bind_some, logLevel,
      logFormat, noColor]
    rfl

theorem Docker.ofTree?_eq_some_iff :
    Docker.ofTree? (.table entries) = some settings.docker ↔
      Setting.socket.HeldIn entries settings ∧ Setting.timeout.HeldIn entries settings ∧
        Setting.buildkit.HeldIn entries settings ∧
        Setting.streamPassthrough.HeldIn entries settings := by
  simp only [Setting.HeldIn, Setting.kind, Setting.name, Setting.value, ← holds_text_iff,
    ← holds_natural_iff, ← holds_flag_iff]
  generalize settings.docker = docker
  constructor
  · intro read
    obtain ⟨path, socket, read⟩ := Option.bind_eq_some_iff.mp read
    obtain ⟨seconds, timeout, read⟩ := Option.bind_eq_some_iff.mp read
    obtain ⟨reported, buildkit, read⟩ := Option.bind_eq_some_iff.mp read
    obtain ⟨copied, streamPassthrough, read⟩ := Option.bind_eq_some_iff.mp read
    cases read
    exact ⟨socket, timeout, buildkit, streamPassthrough⟩
  · rintro ⟨socket, timeout, buildkit, streamPassthrough⟩
    simp only [Docker.ofTree?, entriesOf?, Option.bind_eq_bind, Option.bind_some, socket, timeout,
      buildkit, streamPassthrough]
    rfl

theorem Execution.ofTree?_eq_some_iff :
    Execution.ofTree? (.table entries) = some settings.execution ↔
      Setting.maxParallelism.HeldIn entries settings ∧
        Setting.cleanupAfterSuccess.HeldIn entries settings ∧
        Setting.cleanupAfterFailure.HeldIn entries settings ∧
        Setting.stopTimeout.HeldIn entries settings := by
  simp only [Setting.HeldIn, Setting.kind, Setting.name, Setting.value, ← holds_natural_iff,
    ← holds_flag_iff, ← holds_signed_iff]
  generalize settings.execution = execution
  constructor
  · intro read
    obtain ⟨limit, maxParallelism, read⟩ := Option.bind_eq_some_iff.mp read
    obtain ⟨succeeded, cleanupAfterSuccess, read⟩ := Option.bind_eq_some_iff.mp read
    obtain ⟨failed, cleanupAfterFailure, read⟩ := Option.bind_eq_some_iff.mp read
    obtain ⟨seconds, stopTimeout, read⟩ := Option.bind_eq_some_iff.mp read
    cases read
    exact ⟨maxParallelism, cleanupAfterSuccess, cleanupAfterFailure, stopTimeout⟩
  · rintro ⟨maxParallelism, cleanupAfterSuccess, cleanupAfterFailure, stopTimeout⟩
    simp only [Execution.ofTree?, entriesOf?, Option.bind_eq_bind, Option.bind_some,
      maxParallelism, cleanupAfterSuccess, cleanupAfterFailure, stopTimeout]
    rfl

end Sections

/-- A tree that holds each section once, as a table, and in them each setting once. -/
structure Complete (tree : Tree) : Prop where
  isTable : tree.IsTable
  sections : ∀ name ∈ sectionNames, ∃ entries, tree.given name = [.table entries]
  settings : ∀ setting : Setting, ∃ value, setting.given tree = [value]

theorem lookup_of_given {entries : List (String × Tree)} {name : String} {value : Tree}
    (given : (Tree.table entries).given name = [value]) : entries.lookup name = some value := by
  rw [Tree.lookup_eq_head?]
  exact congrArg List.head? given

/-- Settings are read section by section. -/
theorem ofTree?_sections {tree general docker execution : Tree} {settings : Settings}
    (isTable : tree.IsTable) (generalGiven : tree.given "general" = [general])
    (dockerGiven : tree.given "docker" = [docker])
    (executionGiven : tree.given "execution" = [execution]) :
    ofTree? tree = some settings ↔
      General.ofTree? general = some settings.general ∧
        Docker.ofTree? docker = some settings.docker ∧
        Execution.ofTree? execution = some settings.execution := by
  obtain ⟨entries, rfl⟩ := isTable.exists
  simp only [ofTree?, Tree.table?, lookup_of_given generalGiven, lookup_of_given dockerGiven,
    lookup_of_given executionGiven, Option.bind_eq_bind, Option.bind_some]
  constructor
  · intro read
    obtain ⟨_, first, read⟩ := Option.bind_eq_some_iff.mp read
    obtain ⟨_, second, read⟩ := Option.bind_eq_some_iff.mp read
    obtain ⟨_, third, read⟩ := Option.bind_eq_some_iff.mp read
    cases read
    exact ⟨first, second, third⟩
  · rintro ⟨first, second, third⟩
    rw [first, second, third]
    rfl

namespace Complete

variable {tree : Tree} {settings : Settings}

theorem heldIn_iff (complete : Complete tree) (settings : Settings) {sectionName : String}
    {inside : List (String × Tree)} (here : tree.given sectionName = [.table inside])
    (setting : Setting) (among : setting.sectionName = sectionName) :
    setting.HeldIn inside settings ↔
      setting.given tree = [setting.value settings] ∧
        setting.kind.Admits (setting.value settings) := by
  obtain ⟨value, given⟩ := complete.settings setting
  have inner : setting.given tree = Tree.valuesOf setting.name inside := by
    rw [Setting.given, Tree.within, among, here, List.flatMap_singleton]
    rfl
  rw [Setting.HeldIn, Holds, ← inner, given, List.head?_cons, Option.some.injEq,
    List.singleton_inj]

/-- **Reading.** A complete tree stands for settings exactly if it gives each of them its value
and this is of the kind of the setting. -/
theorem ofTree?_eq_some_iff (complete : Complete tree) :
    ofTree? tree = some settings ↔
      ∀ setting : Setting, setting.given tree = [setting.value settings] ∧
        setting.kind.Admits (setting.value settings) := by
  obtain ⟨general, generalGiven⟩ := complete.sections "general" (by decide)
  obtain ⟨docker, dockerGiven⟩ := complete.sections "docker" (by decide)
  obtain ⟨execution, executionGiven⟩ := complete.sections "execution" (by decide)
  rw [ofTree?_sections complete.isTable generalGiven dockerGiven executionGiven,
    General.ofTree?_eq_some_iff, Docker.ofTree?_eq_some_iff, Execution.ofTree?_eq_some_iff]
  have inGeneral := complete.heldIn_iff settings generalGiven
  have inDocker := complete.heldIn_iff settings dockerGiven
  have inExecution := complete.heldIn_iff settings executionGiven
  rw [inGeneral .logLevel rfl, inGeneral .logFormat rfl, inGeneral .noColor rfl,
    inDocker .socket rfl, inDocker .timeout rfl, inDocker .buildkit rfl,
    inDocker .streamPassthrough rfl, inExecution .maxParallelism rfl,
    inExecution .cleanupAfterSuccess rfl, inExecution .cleanupAfterFailure rfl,
    inExecution .stopTimeout rfl]
  constructor
  · rintro ⟨⟨logLevel, logFormat, noColor⟩, ⟨socket, timeout, buildkit, streamPassthrough⟩,
      maxParallelism, cleanupAfterSuccess, cleanupAfterFailure, stopTimeout⟩ setting
    cases setting <;> assumption
  · intro all
    exact ⟨⟨all _, all _, all _⟩, ⟨all _, all _, all _, all _⟩, all _, all _, all _, all _⟩

/-- A complete tree stands for some settings exactly if each value is of the kind of its
setting. -/
theorem exists_ofTree?_iff (complete : Complete tree) :
    (∃ settings, ofTree? tree = some settings) ↔
      ∀ setting : Setting, ∃ value, setting.given tree = [value] ∧ setting.kind.Admits value := by
  constructor
  · rintro ⟨settings, read⟩ setting
    exact ⟨_, complete.ofTree?_eq_some_iff.mp read setting⟩
  · intro all
    obtain ⟨_, logLevel, level, rfl⟩ := all .logLevel
    obtain ⟨_, logFormat, format, rfl⟩ := all .logFormat
    obtain ⟨_, noColor, color, rfl⟩ := all .noColor
    obtain ⟨_, socket, path, rfl⟩ := all .socket
    obtain ⟨_, timeout, natural⟩ := all .timeout
    obtain ⟨seconds, rfl⟩ := Kind.exists_of_natural natural
    obtain ⟨_, buildkit, reported, rfl⟩ := all .buildkit
    obtain ⟨_, streamPassthrough, copied, rfl⟩ := all .streamPassthrough
    obtain ⟨_, maxParallelism, natural⟩ := all .maxParallelism
    obtain ⟨limit, rfl⟩ := Kind.exists_of_natural natural
    obtain ⟨_, cleanupAfterSuccess, succeeded, rfl⟩ := all .cleanupAfterSuccess
    obtain ⟨_, cleanupAfterFailure, failed, rfl⟩ := all .cleanupAfterFailure
    obtain ⟨_, stopTimeout, grace, least, most, rfl⟩ := all .stopTimeout
    let settings : Settings :=
      { general := ⟨level, format, color⟩, docker := ⟨path, seconds, reported, copied⟩
        execution := ⟨limit, succeeded, failed, grace⟩ }
    refine ⟨settings, complete.ofTree?_eq_some_iff.mpr fun setting => ?_⟩
    cases setting with
    | logLevel => exact ⟨logLevel, level, rfl⟩
    | logFormat => exact ⟨logFormat, format, rfl⟩
    | noColor => exact ⟨noColor, color, rfl⟩
    | socket => exact ⟨socket, path, rfl⟩
    | timeout => exact ⟨timeout, _, seconds.toNat_lt, rfl⟩
    | buildkit => exact ⟨buildkit, reported, rfl⟩
    | streamPassthrough => exact ⟨streamPassthrough, copied, rfl⟩
    | maxParallelism => exact ⟨maxParallelism, _, limit.toNat_lt, rfl⟩
    | cleanupAfterSuccess => exact ⟨cleanupAfterSuccess, succeeded, rfl⟩
    | cleanupAfterFailure => exact ⟨cleanupAfterFailure, failed, rfl⟩
    | stopTimeout => exact ⟨stopTimeout, grace, least, most, rfl⟩

end Complete

end ContainerTasks.Settings
