import Mathlib.Tactic.IntervalCases
import ContainerTasks.Json.Parser

/-! # Reading back quoted texts

A character stands in a quoted text as itself or as an escape of one of two forms, and none
of these needs a control character. Whichever form it has, it is read back. So a value that
is a string is read back (`parse?_quote`), and so is an object whose values are strings
(`parse?_render_texts`).
-/

namespace ContainerTasks.Json

theorem hexValue?_hexDigit {n : Nat} (bound : n < 16) : hexValue? (hexDigit n) = some n := by
  interval_cases n <;> rfl

theorem hexDigit_printable {n : Nat} (bound : n < 16) : 32 ≤ (hexDigit n).toNat := by
  interval_cases n <;> decide

/-- How a character can stand in a quoted text. -/
inductive Escapes (c : Char) : List Char → Prop
  /-- As a letter behind a backslash. -/
  | letter {letter : Char} (standsFor : unescape? letter = some c)
      (printable : 32 ≤ letter.toNat) : Escapes c ['\\', letter]
  /-- By its code. -/
  | code (control : c.toNat < 32) :
      Escapes c ['\\', 'u', '0', '0', hexDigit (c.toNat / 16), hexDigit (c.toNat % 16)]
  | plain (noQuote : c ≠ '"') (noBackslash : c ≠ '\\') (printable : 32 ≤ c.toNat) : Escapes c [c]

theorem escapes_escapeChar (c : Char) : Escapes c (escapeChar c) := by
  by_cases named : c ∈ ['"', '\\', '\n', '\r', '\t', '\x08', '\x0c']
  · simp only [List.mem_cons, List.not_mem_nil, or_false] at named
    rcases named with rfl | rfl | rfl | rfl | rfl | rfl | rfl <;> exact .letter rfl (by decide)
  · simp only [List.mem_cons, List.not_mem_nil, or_false, not_or] at named
    obtain ⟨noQuote, noBackslash, noNewline, noReturn, noTab, noBackspace, noFeed⟩ := named
    rw [escapeChar, if_neg noQuote, if_neg noBackslash, if_neg noNewline, if_neg noReturn,
      if_neg noTab, if_neg noBackspace, if_neg noFeed]
    by_cases control : c.toNat < 32
    · rw [if_pos control]
      exact .code control
    · rw [if_neg control]
      exact .plain noQuote noBackslash (Nat.le_of_not_lt control)

/-- No form needs a control character. -/
theorem Escapes.printable {c d : Char} {chars : List Char} (escapes : Escapes c chars)
    (member : d ∈ chars) : 32 ≤ d.toNat := by
  cases escapes with
  | letter standsFor printable =>
      simp only [List.mem_cons, List.not_mem_nil, or_false] at member
      rcases member with rfl | rfl
      · decide
      · exact printable
  | code control =>
      simp only [List.mem_cons, List.not_mem_nil, or_false] at member
      rcases member with rfl | rfl | rfl | rfl | rfl | rfl
      · decide
      · decide
      · decide
      · decide
      · exact hexDigit_printable (by omega)
      · exact hexDigit_printable (by omega)
  | plain noQuote noBackslash printable =>
      rw [List.mem_singleton.mp member]
      exact printable

/-- The code of a control character, as four digits. -/
theorem hexFour?_control {n : Nat} (control : n < 32) :
    hexFour? '0' '0' (hexDigit (n / 16)) (hexDigit (n % 16)) = some n := by
  have zero : hexValue? '0' = some 0 := rfl
  simp only [hexFour?, zero, hexValue?_hexDigit (n := n / 16) (by omega),
    hexValue?_hexDigit (n := n % 16) (by omega), Option.bind_eq_bind, Option.bind_some,
    Option.pure_def, Option.some.injEq]
  omega

/-- A character is read back from each of its forms. -/
theorem Escapes.read {c : Char} {chars : List Char} (escapes : Escapes c chars)
    (rest : List Char) :
    stringBody (chars ++ rest) = (stringBody rest).map fun (body, after) => (c :: body, after) := by
  cases escapes with
  | @letter letter standsFor _ =>
      have noCode : letter ≠ 'u' := by
        rintro rfl
        cases standsFor
      rw [List.cons_append, List.singleton_append, stringBody, standsFor]
      exact fun _ _ _ _ _ same _ => noCode same
  | code control =>
      have noHigh : isHighSurrogate c.toNat = false := by
        simp only [isHighSurrogate, Bool.and_eq_false_imp, decide_eq_true_eq,
          decide_eq_false_iff_not]
        omega
      have noLow : isLowSurrogate c.toNat = false := by
        simp only [isLowSurrogate, Bool.and_eq_false_imp, decide_eq_true_eq,
          decide_eq_false_iff_not]
        omega
      simp only [List.cons_append, List.nil_append, stringBody, hexFour?_control control, noHigh,
        noLow, Bool.false_eq_true, ↓reduceIte, Char.ofNat_toNat]
  | plain noQuote noBackslash printable =>
      have taken : (c = '\\' || c.toNat < 32) = false := by
        simpa using ⟨noBackslash, printable⟩
      rw [List.singleton_append, stringBody, taken]
      all_goals simp_all

/-- A quoted text is read back up to its closing quote. -/
theorem stringBody_escaped (text rest : List Char) :
    stringBody (text.flatMap escapeChar ++ '"' :: rest) = some (text, rest) := by
  induction text with
  | nil => rfl
  | cons c more ih =>
      rw [List.flatMap_cons, List.append_assoc, (escapes_escapeChar c).read, ih]
      rfl

/-- A quoted text holds no control characters. -/
theorem quoteChars_printable {text : List Char} {c : Char} (member : c ∈ quoteChars text) :
    32 ≤ c.toNat := by
  rw [quoteChars, List.mem_cons, List.mem_append, List.mem_flatMap, List.mem_singleton] at member
  rcases member with rfl | ⟨d, -, inside⟩ | rfl
  · decide
  · exact (escapes_escapeChar d).printable inside
  · decide

theorem readValue?_quoteChars (fuel depth : Nat) (text rest : List Char) :
    readValue? (fuel + 1) depth (quoteChars text ++ rest) =
      some (string (String.ofList text), rest) := by
  rw [quoteChars, List.cons_append, List.append_assoc, List.singleton_append, readValue?]
  dsimp only
  rw [stringBody_escaped]
  rfl

/-- A text between quotes is read as the string that it quotes. -/
theorem parse?_quote (text : String) : parse? (quote text) = some (string text) := by
  have whole := readValue?_quoteChars (2 * (quoteChars text.toList).length + 1) maxDepth
    text.toList []
  rw [List.append_nil] at whole
  have solid : skipSpace (quoteChars text.toList) = quoteChars text.toList := rfl
  rw [parse?, quote, String.toList_ofList, parseChars?, solid, whole, String.ofList_toList]
  rfl

/-! ## Objects of texts -/

/-- Members whose values are strings. -/
def texts (entries : List (String × String)) : List (String × Json) :=
  entries.map fun (name, text) => (name, string text)

/-- A member of an object as it is written. -/
def memberChars (entry : String × String) : List Char :=
  quoteChars entry.1.toList ++ ':' :: quoteChars entry.2.toList

theorem toList_renderMembers_singleton (entry : String × String) :
    (renderMembers (texts [entry])).toList = memberChars entry := by
  simp only [texts, List.map_cons, List.map_nil, renderMembers, render, quote, memberChars,
    String.toList_append, String.toList_ofList, List.append_assoc]
  rfl

theorem toList_renderMembers_cons (entry next : String × String)
    (further : List (String × String)) :
    (renderMembers (texts (entry :: next :: further))).toList =
      memberChars entry ++ ',' :: (renderMembers (texts (next :: further))).toList := by
  simp only [texts, List.map_cons, renderMembers, render, quote, memberChars,
    String.toList_append, String.toList_ofList, List.append_assoc]
  rfl

/-- Written members begin with a quote. -/
theorem exists_toList_renderMembers (entry : String × String) (further : List (String × String)) :
    ∃ rest, (renderMembers (texts (entry :: further))).toList = '"' :: rest := by
  cases further with
  | nil => exact ⟨_, toList_renderMembers_singleton entry⟩
  | cons next more => exact ⟨_, toList_renderMembers_cons entry next more⟩

theorem length_le_renderMembers (entries : List (String × String)) :
    entries.length ≤ (renderMembers (texts entries)).toList.length + 1 := by
  induction entries with
  | nil => exact Nat.zero_le _
  | cons entry more ih =>
      cases more with
      | nil => exact Nat.le_add_left _ _
      | cons next more =>
          rw [toList_renderMembers_cons, List.length_append]
          simp only [List.length_cons] at ih ⊢
          omega

section Members

variable (fuel depth : Nat) (entry : String × String) (rest : List Char)

/-- What follows a member says whether it is the last one. -/
theorem readMembers?_memberChars :
    readMembers? (fuel + 2) depth (memberChars entry ++ rest) =
      match skipSpace rest with
      | '\x7d' :: rest => some (texts [entry], rest)
      | ',' :: rest =>
        (readMembers? (fuel + 1) depth (skipSpace rest)).map fun (members, after) =>
          (texts [entry] ++ members, after)
      | _ => none := by
  have spelled : memberChars entry ++ rest = '"' :: (entry.1.toList.flatMap escapeChar ++
      '"' :: ':' :: (quoteChars entry.2.toList ++ rest)) := by
    simp only [memberChars, quoteChars, List.cons_append, List.append_assoc, List.nil_append]
  have colon (after : List Char) : skipSpace (':' :: after) = ':' :: after := rfl
  have quote (text : List Char) :
      skipSpace (quoteChars text ++ rest) = quoteChars text ++ rest := rfl
  rw [spelled, readMembers?]
  dsimp only
  rw [stringBody_escaped]
  simp only [colon, quote, readValue?_quoteChars, String.ofList_toList]
  rfl

/-- Members that are strings are read back up to the closing brace. -/
theorem readMembers?_texts {fuel : Nat} (further : List (String × String))
    (enough : further.length + 2 ≤ fuel) :
    readMembers? fuel depth ((renderMembers (texts (entry :: further))).toList ++ '\x7d' :: rest) =
      some (texts (entry :: further), rest) := by
  induction further generalizing entry fuel with
  | nil =>
      obtain ⟨fuel, rfl⟩ := Nat.exists_eq_add_of_le' enough
      rw [toList_renderMembers_singleton, List.length_nil, Nat.zero_add, readMembers?_memberChars]
      rfl
  | cons next more ih =>
      obtain ⟨spare, rfl⟩ := Nat.exists_eq_add_of_le' enough
      have comma (after : List Char) : skipSpace (',' :: after) = ',' :: after := rfl
      have quote : skipSpace ((renderMembers (texts (next :: more))).toList ++ '\x7d' :: rest) =
          (renderMembers (texts (next :: more))).toList ++ '\x7d' :: rest := by
        obtain ⟨chars, begins⟩ := exists_toList_renderMembers next more
        rw [begins]
        rfl
      have enoughLater : more.length + 2 ≤ spare + more.length + 2 := by omega
      have later := ih next enoughLater
      rw [toList_renderMembers_cons, List.append_assoc, List.cons_append, List.length_cons,
        show spare + (more.length + 1 + 2) = spare + more.length + 1 + 2 by omega,
        readMembers?_memberChars]
      simp only [comma, quote, later]
      rfl

/-- An object whose values are strings is read back. -/
theorem readValue?_texts {fuel : Nat} (entries : List (String × String))
    (enough : entries.length < fuel) :
    readValue? (fuel + 1) (depth + 1)
        ('\x7b' :: ((renderMembers (texts entries)).toList ++ '\x7d' :: rest)) =
      some (object (texts entries), rest) := by
  cases entries with
  | nil => rfl
  | cons entry further =>
      have members := readMembers?_texts depth entry rest further enough
      obtain ⟨chars, begins⟩ := exists_toList_renderMembers entry further
      have quote (after : List Char) : skipSpace ('"' :: after) = '"' :: after := rfl
      rw [begins, List.cons_append] at members ⊢
      rw [readValue?]
      simp only [quote, Nat.add_one_ne_zero, if_false, Nat.add_sub_cancel]
      exact congrArg (Option.map fun (members, after) => (object members, after)) members

end Members

/-- The text of an object whose values are strings is read as this object. -/
theorem parse?_render_texts (entries : List (String × String)) :
    parse? (object (texts entries)).render = some (object (texts entries)) := by
  have text : (object (texts entries)).render.toList =
      '\x7b' :: ((renderMembers (texts entries)).toList ++ ['\x7d']) := by
    rw [render, String.toList_append, String.toList_append, List.append_assoc]
    rfl
  have brace (after : List Char) : skipSpace ('\x7b' :: after) = '\x7b' :: after := rfl
  have enough := length_le_renderMembers entries
  rw [parse?, parseChars?, text, brace, List.length_cons, List.length_append, List.length_singleton,
    show maxDepth = 126 + 1 from rfl, readValue?_texts 126 [] entries (by omega)]
  rfl

end ContainerTasks.Json
