import ContainerTasks.Proofs.Settings.Reading
import ContainerTasks.Settings.Load

/-! # Layers of settings

The defaults, the files that are there and the variables of the environment are laid over each
other in this order. As long as each of them gives the sections as tables only, every setting has
the value that was given to it last, whatever else they hold, and loading fails exactly if one of
these values is not of the kind of its setting (`ofLayers_latest`).
-/

namespace ContainerTasks

theorem Text.cutAt_ne_nil (mark : Char) (chars : List Char) : Text.cutAt mark chars ≠ [] := by
  cases chars with
  | nil => exact List.cons_ne_nil _ _
  | cons c rest =>
      rw [Text.cutAt]
      split
      · exact List.cons_ne_nil _ _
      · split <;> exact List.cons_ne_nil _ _

namespace Settings

namespace Environment

/-- What a variable sets, as a tree. -/
def tree? (entry : String × String) : Option Tree :=
  (path? entry.1).map (LooseValue.read entry.2).under

/-- What variables set is laid over each other one by one. -/
theorem layer_eq (environment : List (String × String)) :
    layer environment = (environment.filterMap tree?).foldl Tree.overlay (.table []) := by
  rw [List.foldl_filterMap, layer]
  congr 1
  funext tree entry
  obtain ⟨name, value⟩ := entry
  dsimp only [tree?]
  cases path? name <;> rfl

/-- A variable leads into at least one name. -/
theorem isTable_of_tree? {entry : String × String} {tree : Tree}
    (sets : tree? entry = some tree) : tree.IsTable := by
  obtain ⟨names, path, rfl⟩ := Option.map_eq_some_iff.mp sets
  unfold path? at path
  simp only [Option.ite_none_right_eq_some, Option.ite_none_left_eq_some, Option.some.injEq] at path
  obtain ⟨-, -, rfl⟩ := path
  obtain ⟨part, more, cut⟩ := List.exists_cons_of_ne_nil (Text.cutAt_ne_nil '.' _)
  rw [cut, List.map_cons]
  exact Tree.isTable_table _

end Environment

/-- A tree gives sections as tables only. -/
def Sectioned (tree : Tree) : Prop :=
  ∀ name ∈ sectionNames, ∀ value ∈ tree.given name, value.IsTable

instance (tree : Tree) : Decidable (Sectioned tree) :=
  inferInstanceAs (Decidable (∀ name ∈ sectionNames, ∀ value ∈ tree.given name, value.IsTable))

section Overlay

variable {base : Tree} {later : List Tree}

theorem complete_toTree (settings : Settings) : Complete settings.toTree where
  isTable := Tree.isTable_table _
  sections := by
    intro name member
    simp only [sectionNames, List.mem_cons, List.not_mem_nil, or_false] at member
    rcases member with rfl | rfl | rfl
    · exact ⟨_, rfl⟩
    · exact ⟨_, rfl⟩
    · exact ⟨_, rfl⟩
  settings := fun setting => ⟨_, Setting.given_toTree settings setting⟩

theorem isTable_of_mem_sections {name : String} (member : name ∈ sectionNames)
    (sectioned : ∀ tree ∈ later, Sectioned tree) :
    ∀ value ∈ later.flatMap (Tree.given name), value.IsTable := by
  intro value among
  obtain ⟨tree, present, gives⟩ := List.mem_flatMap.mp among
  exact sectioned tree present name member value gives

theorem Sectioned.foldl_overlay (isTable : base.IsTable) (tables : ∀ tree ∈ later, tree.IsTable)
    (sectioned : ∀ tree ∈ base :: later, Sectioned tree) :
    Sectioned (later.foldl Tree.overlay base) := by
  intro name member
  rw [Tree.given_foldl_overlay name isTable tables]
  refine Tree.isTable_of_mem_merged ?_
  rw [← List.flatMap_cons]
  exact isTable_of_mem_sections member sectioned

/-- What is laid over a complete tree leaves it complete. -/
theorem Complete.foldl_overlay (complete : Complete base) (tables : ∀ tree ∈ later, tree.IsTable)
    (sectioned : ∀ tree ∈ later, Sectioned tree) : Complete (later.foldl Tree.overlay base) := by
  have once (name : String) (member : name ∈ sectionNames) :
      ∃ content, base.given name = [content] ∧ content.IsTable ∧
        (later.foldl Tree.overlay base).given name =
          [(later.flatMap (Tree.given name)).foldl Tree.overlay content] := by
    obtain ⟨entries, given⟩ := complete.sections name member
    refine ⟨.table entries, given, Tree.isTable_table entries, ?_⟩
    rw [Tree.given_foldl_overlay name complete.isTable tables, given, Tree.merged_singleton]
  refine ⟨complete.isTable.foldl_overlay tables, fun name member => ?_, fun setting => ?_⟩
  · obtain ⟨content, -, isTable, given⟩ := once name member
    obtain ⟨entries, same⟩ :=
      (isTable.foldl_overlay (isTable_of_mem_sections member sectioned)).exists
    exact ⟨entries, by rw [given, same]⟩
  · have member := setting.sectionName_mem
    obtain ⟨content, before, isTable, given⟩ := once _ member
    obtain ⟨value, old⟩ := complete.settings setting
    rw [Setting.given, Tree.within, before, List.flatMap_singleton] at old
    rw [Setting.given, Tree.within, given, List.flatMap_singleton,
      Tree.given_foldl_overlay _ isTable (isTable_of_mem_sections member sectioned), old,
      Tree.merged_singleton]
    exact ⟨_, rfl⟩

end Overlay

/-- What is laid over each other to make the settings: the defaults, what the files hold, and what
each variable sets. -/
def sources (files : List Bytes) (environment : List (String × String)) : List Tree :=
  toTree {} :: (files.filterMap fileLayer? ++ environment.filterMap Environment.tree?)

/-- The sources laid over each other, those of the environment first among themselves. -/
def together (files : List Bytes) (environment : List (String × String)) : Tree :=
  (files.filterMap fileLayer? ++ [Environment.layer environment]).foldl Tree.overlay (toTree {})

section Loading

variable {files : List Bytes} {environment : List (String × String)}

theorem mapM_fileLayer? (readable : ∀ content ∈ files, (fileLayer? content).isSome) :
    files.mapM fileLayer? = some (files.filterMap fileLayer?) := by
  induction files with
  | nil => rfl
  | cons content files ih =>
      obtain ⟨first, readable⟩ := List.forall_mem_cons.mp readable
      obtain ⟨layer, held⟩ := Option.isSome_iff_exists.mp first
      rw [List.mapM_cons, ih readable, List.filterMap_cons, held]
      rfl

/-- Only the outcome of laying the layers over each other is checked. -/
theorem ofLayers_settles (environment : List (String × String))
    (readable : ∀ content ∈ files, (fileLayer? content).isSome) :
    (∀ settings, ofLayers files environment = .ok settings ↔
      ofTree? (together files environment) = some settings) ∧
    (∀ error, ofLayers files environment = .error error ↔ error = .unreadable ∧
      ¬ ∃ settings, ofTree? (together files environment) = some settings) := by
  rw [ofLayers, mapM_fileLayer? readable]
  dsimp only
  rw [← together]
  cases ofTree? (together files environment) <;> simp [eq_comm]

theorem isTable_of_mem_files : ∀ tree ∈ files.filterMap fileLayer?, tree.IsTable := by
  intro tree member
  obtain ⟨content, -, held⟩ := List.mem_filterMap.mp member
  obtain ⟨entries, -, rfl⟩ := Option.map_eq_some_iff.mp held
  exact Tree.isTable_table entries

theorem isTable_of_mem_environment :
    ∀ tree ∈ environment.filterMap Environment.tree?, tree.IsTable := by
  intro tree member
  obtain ⟨entry, -, sets⟩ := List.mem_filterMap.mp member
  exact Environment.isTable_of_tree? sets

variable (sectioned : ∀ source ∈ sources files environment, Sectioned source)

include sectioned

theorem sectioned_layer : Sectioned (Environment.layer environment) := by
  rw [Environment.layer_eq]
  refine Sectioned.foldl_overlay (Tree.isTable_table []) isTable_of_mem_environment ?_
  refine List.forall_mem_cons.mpr ⟨fun _ _ _ member => absurd member List.not_mem_nil, ?_⟩
  intro tree member
  exact sectioned tree (List.mem_cons_of_mem _ (List.mem_append_right _ member))

/-- What is laid over the defaults are tables that give sections as tables only. -/
theorem layers_fit : ∀ tree ∈ files.filterMap fileLayer? ++ [Environment.layer environment],
    tree.IsTable ∧ Sectioned tree := by
  intro tree member
  rcases List.mem_append.mp member with file | last
  · exact ⟨isTable_of_mem_files tree file,
      sectioned tree (List.mem_cons_of_mem _ (List.mem_append_left _ file))⟩
  · obtain rfl := List.mem_singleton.mp last
    refine ⟨?_, sectioned_layer sectioned⟩
    rw [Environment.layer_eq]
    exact (Tree.isTable_table []).foldl_overlay isTable_of_mem_environment

theorem complete_together : Complete (together files environment) :=
  (complete_toTree {}).foldl_overlay (fun tree member => (layers_fit sectioned tree member).1)
    fun tree member => (layers_fit sectioned tree member).2

/-- What becomes of a setting in the environment is the last value that a variable gives it. -/
theorem outcome_layer (setting : Setting) :
    Tree.outcome (setting.given (Environment.layer environment)) =
      Tree.outcome ((environment.filterMap Environment.tree?).flatMap setting.given) := by
  have empty : setting.given (.table []) = [] := rfl
  rw [Environment.layer_eq, Setting.given, Tree.outcome_within_overlay _ _ (Tree.isTable_table [])
    isTable_of_mem_environment (Nat.zero_le 1), List.flatMap_cons]
  · exact congrArg (fun values => Tree.outcome (values ++ _)) empty
  · refine List.forall_mem_cons.mpr ⟨fun _ member => absurd member List.not_mem_nil, ?_⟩
    intro tree member
    exact sectioned tree (List.mem_cons_of_mem _ (List.mem_append_right _ member)) _
      setting.sectionName_mem

/-- What becomes of a setting is the last value that a source gives it. -/
theorem outcome_together (setting : Setting) :
    Tree.outcome (setting.given (together files environment)) =
      Tree.outcome ((sources files environment).flatMap setting.given) := by
  have complete := complete_toTree {}
  obtain ⟨entries, once⟩ := complete.sections _ setting.sectionName_mem
  have defaults : Sectioned (toTree {}) := sectioned _ List.mem_cons_self
  have all := outcome_layer sectioned setting
  rw [together, Setting.given, Tree.outcome_within_overlay _ _ complete.isTable
    (fun tree member => (layers_fit sectioned tree member).1) (by rw [once]; exact Nat.le_refl 1)]
  · change Tree.outcome (List.flatMap setting.given _) = _
    rw [sources, ← List.cons_append, ← List.cons_append, List.flatMap_append,
      List.flatMap_singleton, List.flatMap_append, Tree.outcome_append, Tree.outcome_append, all]
  · refine List.forall_mem_cons.mpr ⟨defaults _ setting.sectionName_mem, ?_⟩
    intro tree member
    exact (layers_fit sectioned tree member).2 _ setting.sectionName_mem

end Loading

/-- No setting is a table. -/
theorem Kind.Admits.not_isTable {kind : Kind} {value : Tree} (admitted : kind.Admits value) :
    ¬ value.IsTable := by
  cases kind with
  | text | format | flag =>
      obtain ⟨_, rfl⟩ := admitted
      exact Bool.false_ne_true
  | natural =>
      obtain ⟨_, -, rfl⟩ := admitted
      exact Bool.false_ne_true
  | signed =>
      obtain ⟨_, -, -, rfl⟩ := admitted
      exact Bool.false_ne_true

section Latest

variable {files : List Bytes} {environment : List (String × String)}
  (sectioned : ∀ source ∈ sources files environment, Sectioned source)

include sectioned

/-- A setting is read from the last value given to it, or from a table in place of a table. -/
theorem exists_latest (setting : Setting) :
    ∃ value latest, setting.given (together files environment) = [value] ∧
      ((sources files environment).flatMap setting.given).getLast? = some latest ∧
      latest.bare = value.bare := by
  obtain ⟨value, given⟩ := (complete_together sectioned).settings setting
  have outcome := outcome_together sectioned setting
  rw [given] at outcome
  obtain ⟨latest, last, same⟩ := Option.map_eq_some_iff.mp outcome.symm
  exact ⟨value, latest, given, last, same⟩

theorem given_together_iff {setting : Setting} {value : Tree}
    (admitted : setting.kind.Admits value) :
    setting.given (together files environment) = [value] ↔
      ((sources files environment).flatMap setting.given).getLast? = some value := by
  obtain ⟨held, latest, given, last, same⟩ := exists_latest sectioned setting
  rw [given, last, List.singleton_inj, Option.some.injEq]
  constructor
  · rintro rfl
    exact Tree.eq_of_bare admitted.not_isTable same
  · rintro rfl
    exact Tree.eq_of_bare admitted.not_isTable same.symm

end Latest

/-- **Layers.** Files that are there and variables in their order give settings one layer after the
other, beginning with the defaults. If they give the sections as tables only, then each setting has
the last value that any of them gives it, whatever they hold besides, and loading fails, as
unreadable, exactly if the last value of some setting is not of its kind. -/
theorem ofLayers_latest (store : Files.FileStore) (directory : String) (paths : List String)
    (environment : List (String × String))
    (readable : ∀ content ∈ contents store directory paths, (fileLayer? content).isSome)
    (sectioned : ∀ source ∈ sources (contents store directory paths) environment,
      Sectioned source) :
    let outcome := ofLayers (contents store directory paths) environment
    let latest (setting : Setting) :=
      ((sources (contents store directory paths) environment).flatMap setting.given).getLast?
    (∀ settings, outcome = .ok settings ↔ ∀ setting : Setting,
      latest setting = some (setting.value settings) ∧
        setting.kind.Admits (setting.value settings)) ∧
    ∀ error, outcome = .error error ↔ error = .unreadable ∧
      ∃ setting value, latest setting = some value ∧ ¬ setting.kind.Admits value := by
  have complete := complete_together sectioned
  obtain ⟨succeeds, fails⟩ := ofLayers_settles environment readable
  refine ⟨fun settings => ?_, fun error => ?_⟩
  · rw [succeeds, complete.ofTree?_eq_some_iff]
    exact forall_congr' fun setting => and_congr_left (given_together_iff sectioned)
  · rw [fails, complete.exists_ofTree?_iff]
    refine and_congr_right fun _ => ?_
    constructor
    · intro unfit
      obtain ⟨setting, none⟩ := not_forall.mp unfit
      obtain ⟨-, latest, -, last, -⟩ := exists_latest sectioned setting
      refine ⟨setting, latest, last, fun admitted => none ⟨latest, ?_, admitted⟩⟩
      exact (given_together_iff sectioned admitted).mpr last
    · rintro ⟨setting, latest, last, unfit⟩ fit
      obtain ⟨value, given, admitted⟩ := fit setting
      have found := (given_together_iff sectioned admitted).mp given
      obtain rfl := Option.some.inj (last.symm.trans found)
      exact unfit admitted

/-- Files of which the second one mends a value of the first one. -/
def mended : Files.FileStore where
  entries := [(["project"], .directory),
    (["project", "base.toml"], .file (Text.Utf8.ofString
      "retries = 3\n\n[docker]\ntimeout = \"soon\"\nsocket = \"/tmp/a\"\n")),
    (["project", "local.toml"], .file (Text.Utf8.ofString
      "[docker]\ntimeout = 7\n\n[extra]\nlevel = 1\n"))]

/-- Variables that lead to settings in two ways. -/
def leading : List (String × String) :=
  [("PATH", "/bin"), ("GANTRY_EXECUTION__STOP_TIMEOUT", "-1"), ("gantry_docker.socket", "/tmp/b")]

theorem ofLayers_latest_mended :
    let files := contents mended "/project" ["base.toml", "missing.toml", "local.toml"]
    let swapped := contents mended "/project" ["local.toml", "base.toml"]
    (∀ content ∈ files, (fileLayer? content).isSome) ∧
      (∀ source ∈ sources files leading, Sectioned source) ∧
      ofLayers files leading = .ok
        { docker := { socket := "/tmp/b", timeout := 7 }, execution := { stopTimeout := -1 } } ∧
      ((sources files leading).flatMap Setting.timeout.given).getLast? = some (.integer 7) ∧
      ∃ (setting : Setting) (value : Tree),
        ((sources swapped leading).flatMap setting.given).getLast? = some value ∧
          ¬ setting.kind.Admits value := by
  intro files swapped
  have loads : (∀ content ∈ files, (fileLayer? content).isSome) ∧
      (∀ source ∈ sources files leading, Sectioned source) ∧
      ofLayers files leading = .ok
        { docker := { socket := "/tmp/b", timeout := 7 }, execution := { stopTimeout := -1 } } := by
    decide +kernel
  have refuses : (∀ content ∈ swapped, (fileLayer? content).isSome) ∧
      (∀ source ∈ sources swapped leading, Sectioned source) ∧
      ofLayers swapped leading = .error .unreadable := by
    decide +kernel
  obtain ⟨readable, sectioned, loaded⟩ := loads
  obtain ⟨readable', sectioned', refused⟩ := refuses
  obtain ⟨succeeds, -⟩ := ofLayers_latest mended "/project"
    ["base.toml", "missing.toml", "local.toml"] leading readable sectioned
  obtain ⟨-, fails⟩ := ofLayers_latest mended "/project" ["local.toml", "base.toml"] leading
    readable' sectioned'
  exact ⟨readable, sectioned, loaded, ((succeeds _).mp loaded .timeout).1,
    ((fails _).mp refused).2⟩

end Settings

end ContainerTasks
