import ContainerTasks.Project.Draft

/-! # Quoted arguments

Between single quotes the shell keeps every character but the quote itself, which can be
written outside of the quotes, behind a backslash. So any text can be an argument of a
command. A command of arguments that are quoted in this way, with blanks between them, is
split into just these arguments (`parseCommand_written`).
-/

namespace ContainerTasks

namespace Shell

/-- A character of an argument between single quotes. A quote ends the quoted part, stands
behind a backslash, and begins the next quoted part. -/
def quoteChar (c : Char) : List Char :=
  if c = '\'' then ['\'', '\\', '\'', '\''] else [c]

/-- An argument between single quotes. -/
def quoted (argument : List Char) : List Char :=
  '\'' :: (argument.flatMap quoteChar ++ ['\''])

/-- What stands between two arguments: spaces, tabs and newlines, at least one. -/
structure Gap where
  chars : List Char
  inhabited : chars ≠ []
  blank : ∀ c ∈ chars, c = ' ' ∨ c = '\t' ∨ c = '\n'

/-- The text of a command of quoted arguments, the further ones with the gaps before
them. -/
def written (first : String) (further : List (Gap × String)) : String :=
  String.ofList (quoted first.toList ++
    further.flatMap fun (gap, argument) => gap.chars ++ quoted argument.toList)

/-- Between quotes an argument is taken in character by character, quotes included. -/
theorem wordsFrom_single (word argument rest : List Char) :
    wordsFrom (.single word) (argument.flatMap quoteChar ++ '\'' :: rest) =
      wordsFrom (.plain (word ++ argument)) rest := by
  induction argument generalizing word with
  | nil => rw [List.append_nil]; rfl
  | cons c more ih =>
      rw [List.flatMap_cons, List.append_assoc, List.append_cons word c more, ← ih]
      by_cases quote : c = '\''
      -- Through the four characters of a quote: out, behind the backslash, taken in, back.
      · subst quote
        rfl
      · have kept : step (.single word) c = (.single (word ++ [c]), none) := by
          rw [step, if_neg quote]
        rw [quoteChar, if_neg quote, List.singleton_append, wordsFrom, kept]

/-- A quoted argument, where a word may begin, begins this word. -/
theorem wordsFrom_quoted (argument rest : List Char) :
    wordsFrom .between (quoted argument ++ rest) = wordsFrom (.plain argument) rest := by
  have opened := wordsFrom_single [] argument rest
  rw [List.nil_append] at opened
  rw [quoted, List.cons_append, List.append_assoc]
  exact opened

theorem isSeparator_of_mem {gap : Gap} {c : Char} (member : c ∈ gap.chars) :
    isSeparator c = true := by
  rcases gap.blank c member with rfl | rfl | rfl <;> rfl

/-- Between words, separators are passed over. -/
theorem wordsFrom_between {blanks : List Char} (separate : ∀ c ∈ blanks, isSeparator c = true)
    (rest : List Char) : wordsFrom .between (blanks ++ rest) = wordsFrom .between rest := by
  induction blanks with
  | nil => rfl
  | cons c more ih =>
      obtain ⟨separates, separate⟩ := List.forall_mem_cons.mp separate
      have stays : step .between c = (.between, none) := by rw [step, if_pos separates]
      rw [List.cons_append, wordsFrom, stays]
      exact ih separate

/-- A gap ends a word. -/
theorem wordsFrom_gap (word : List Char) (gap : Gap) (rest : List Char) :
    wordsFrom (.plain word) (gap.chars ++ rest) =
      (wordsFrom .between rest).map (word :: ·) := by
  have separate : ∀ c ∈ gap.chars, isSeparator c = true := fun c => isSeparator_of_mem
  obtain ⟨c, more, chars⟩ := List.exists_cons_of_ne_nil gap.inhabited
  rw [chars] at separate ⊢
  obtain ⟨separates, separate⟩ := List.forall_mem_cons.mp separate
  have ends : step (.plain word) c = (.between, some word) := by rw [step, if_pos separates]
  rw [List.cons_append, wordsFrom, ends]
  dsimp only
  rw [wordsFrom_between separate]

/-- Behind a word, further quoted arguments are the further words. -/
theorem wordsFrom_further (word : List Char) (further : List (Gap × String)) :
    wordsFrom (.plain word)
        (further.flatMap fun (gap, argument) => gap.chars ++ quoted argument.toList) =
      some (word :: further.map fun (_, argument) => argument.toList) := by
  induction further generalizing word with
  | nil => rfl
  | cons entry more ih =>
      obtain ⟨gap, argument⟩ := entry
      rw [List.flatMap_cons, List.append_assoc, wordsFrom_gap, wordsFrom_quoted, ih]
      rfl

/-- The words of a command of quoted arguments are its arguments. -/
theorem words?_written (first : String) (further : List (Gap × String)) :
    words? (written first further) = some (first :: further.map Prod.snd) := by
  rw [words?, written, String.toList_ofList, wordsFrom_quoted, wordsFrom_further,
    Option.map_some, List.map_cons, List.map_map, String.ofList_toList]
  congr 2
  exact List.map_congr_left fun entry _ => String.ofList_toList

end Shell

namespace Project

open Shell

/-- **Quoted arguments.** However many arguments a command has, at least one, and whatever
characters are in them: if each of them is written between single quotes, with gaps between
them, the command is split into just these arguments. And no command that is accepted is
without arguments. -/
theorem parseCommand_written :
    (∀ (first : String) (further : List (Gap × String)),
      parseCommand (written first further) = .ok (first :: further.map Prod.snd)) ∧
    ∀ command arguments, parseCommand command = .ok arguments → arguments ≠ [] := by
  constructor
  · intro first further
    rw [parseCommand, words?_written]
  · rintro command arguments accepted rfl
    unfold parseCommand at accepted
    split at accepted
    · cases accepted
    · cases accepted
    · rename_i solid _
      exact solid (Except.ok.inj accepted)

/-- A quote, an argument without characters, and one that would be a comment. -/
theorem parseCommand_written_odd :
    let command := "'it'\\''s' \n''\t'# \\'"
    let further : List (Gap × String) :=
      [(⟨[' ', '\n'], by simp, by simp⟩, ""), (⟨['\t'], by simp, by simp⟩, "# \\")]
    written "it's" further = command ∧
      parseCommand command = .ok ["it's", "", "# \\"] ∧ ["it's", "", "# \\"] ≠ [] := by
  intro command further
  have text : written "it's" further = command := by decide +kernel
  have splits : parseCommand command = .ok ["it's", "", "# \\"] :=
    text ▸ parseCommand_written.1 "it's" further
  exact ⟨text, splits, parseCommand_written.2 command _ splits⟩

end Project

end ContainerTasks
