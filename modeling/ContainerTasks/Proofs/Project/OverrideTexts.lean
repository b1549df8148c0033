import Mathlib.Data.List.DropRight
import ContainerTasks.Proofs.Project.Acceptance
import ContainerTasks.Proofs.Project.Overrides

/-! # What the texts of overrides name

An override is a container and an image around the first equals sign, without the blanks
around either. So the container that it names has no equals sign and no blanks around it, and
each name of this kind that is not empty can be named (`parse_of_addressable`). A container of
an accepted project may be called otherwise; then no text names it, though one that was meant
for it can name another container.
-/

namespace ContainerTasks

namespace Text

theorem trimChars_isPrefix (chars : List Char) : trimChars chars <+: chars.dropWhile isBlank :=
  List.rdropWhile_prefix isBlank _

theorem mem_of_mem_trimChars {chars : List Char} {c : Char} (member : c ∈ trimChars chars) :
    c ∈ chars :=
  (List.dropWhile_sublist _).subset ((trimChars_isPrefix chars).subset member)

/-- What is left of a text has no blanks around it. -/
theorem trimChars_trimChars (chars : List Char) :
    trimChars (trimChars chars) = trimChars chars := by
  have front : (trimChars chars).dropWhile isBlank = trimChars chars := by
    cases left : trimChars chars with
    | nil => rfl
    | cons c rest =>
        obtain ⟨more, whole⟩ := left ▸ trimChars_isPrefix chars
        have solid := List.head?_dropWhile_not isBlank chars
        rw [← whole] at solid
        exact List.dropWhile_cons_of_neg (by simpa using solid)
  conv => lhs; rw [trimChars, front]
  exact List.rdropWhile_idempotent isBlank _

theorem trim_eq_self_iff {text : String} :
    trim text = text ↔ trimChars text.toList = text.toList := by
  rw [trim, ← String.toList_inj, String.toList_ofList]

end Text

namespace Project

open Text

theorem cutAtEquals_append {before : List Char} (unsigned : '=' ∉ before) (after : List Char) :
    cutAtEquals (before ++ '=' :: after) = some (before, after) := by
  induction before with
  | nil => rfl
  | cons c rest ih =>
      obtain ⟨other, unsigned⟩ := not_or.mp (mt List.mem_cons.mpr unsigned)
      rw [List.cons_append, cutAtEquals, if_neg (Ne.symm other), ih unsigned]
      rfl

theorem not_mem_of_cutAtEquals {chars before after : List Char}
    (cut : cutAtEquals chars = some (before, after)) : '=' ∉ before := by
  induction chars generalizing before with
  | nil => cases cut
  | cons c rest ih =>
      rw [cutAtEquals] at cut
      split at cut
      · cases cut
        exact List.not_mem_nil
      · rename_i other
        obtain ⟨⟨front, back⟩, later, same⟩ := Option.map_eq_some_iff.mp cut
        cases same
        exact fun member => (List.mem_cons.mp member).elim (Ne.symm other) (ih later)

/-- A name that the text of an override can give: there is no equals sign in it, and no blanks
are around it. -/
structure Addressable (name : String) : Prop where
  unsigned : '=' ∉ name.toList
  trimmed : trim name = name

/-- The text of an override names a container by an addressable name. -/
theorem addressable_of_parse {text : String} {change : ImageOverride}
    (read : ImageOverride.parse text = .ok change) : Addressable change.container := by
  unfold ImageOverride.parse at read
  split at read
  · cases read
  · rename_i before after cut
    dsimp only at read
    split at read
    · cases read
    · cases read
      refine ⟨fun member => ?_, trim_eq_self_iff.mpr ?_⟩
      · rw [String.toList_ofList] at member
        exact not_mem_of_cutAtEquals cut (mem_of_mem_trimChars member)
      · rw [String.toList_ofList, trimChars_trimChars]

/-- A container with an addressable name and an image without blanks around it are read back
from the equals sign between them. -/
theorem parse_of_addressable {name image : String} (addressable : Addressable name)
    (named : name ≠ "") (trimmed : trim image = image) (given : image ≠ "") :
    ImageOverride.parse (name ++ "=" ++ image) = .ok ⟨name, image⟩ := by
  have text : (name ++ "=" ++ image).toList = name.toList ++ '=' :: image.toList := by
    rw [String.toList_append, String.toList_append, List.append_assoc]
    rfl
  have nonempty : ∀ text : String, text ≠ "" → text.toList.isEmpty = false := by
    intro text some
    simpa using some
  rw [ImageOverride.parse, text, cutAtEquals_append addressable.unsigned]
  simp only [trim_eq_self_iff.mp addressable.trimmed, trim_eq_self_iff.mp trimmed,
    nonempty name named, nonempty image given, String.ofList_toList, Bool.or_self,
    Bool.false_eq_true, ↓reduceIte]

theorem not_blank_of_accept {draft : ContainerDraft} {name directory : String}
    {container : Container} (made : draft.accept name directory = .ok container) :
    isBlankText name = false := by
  unfold ContainerDraft.accept at made
  dsimp only at made
  split at made
  · cases made
  · rename_i solid
    simpa using solid

/-- Containers of an accepted project have names. -/
theorem ne_empty_of_ofYaml {text directory name : String} {project : Project}
    {container : Container} (accepted : ofYaml text directory = .ok project)
    (present : project.container? name = some container) : name ≠ "" := by
  rintro rfl
  unfold ofYaml at accepted
  split at accepted
  · cases accepted
  · obtain ⟨stated, -, made⟩ := (Draft.exists_of_accept accepted).1 "" container present
    exact absurd (not_blank_of_accept made) (by decide)

/-- One container of a project is overridden, and no other is changed. -/
theorem specialise_singleton {project : Project} {name : String} {container : Container}
    (present : project.container? name = some container) (image : String) :
    ∃ changed, project.specialise [⟨name, image⟩] = .ok changed ∧
      changed.container? name = some { container with source := .pull image } ∧
      ∀ other, other ≠ name → changed.container? other = project.container? other := by
  have names : project.Names ⟨name, image⟩ := by rw [Names, present, Option.isSome_some]
  refine ⟨_, specialise_of_known (List.forall_mem_singleton.mpr names), ?_, fun other ne => ?_⟩
  · rw [container?_overridden, present, imageFor?_cons, if_pos rfl]
    rfl
  · refine container?_of_unnamed ?_
    exact List.forall_mem_singleton.mpr (Ne.symm ne)

/-- **Override texts.** Let a container of an accepted project have a name without an equals
sign and without blanks around it. Then the text with this name, an equals sign and an image
without blanks around it is an override that gives just this container the image. A container
with any other name keeps its own image, whatever texts the overrides are read from. -/
theorem override_reaches {text directory name : String} {project : Project}
    {container : Container} (accepted : ofYaml text directory = .ok project)
    (present : project.container? name = some container) :
    ('=' ∉ name.toList ∧ trim name = name →
      ∀ image, image ≠ "" → trim image = image →
        ImageOverride.parse (name ++ "=" ++ image) = .ok ⟨name, image⟩ ∧
        ∃ changed, project.specialise [⟨name, image⟩] = .ok changed ∧
          changed.container? name = some { container with source := .pull image } ∧
          ∀ other, other ≠ name → changed.container? other = project.container? other) ∧
    (¬ ('=' ∉ name.toList ∧ trim name = name) →
      ∀ overrides changed, (∀ change ∈ overrides, ∃ asked, ImageOverride.parse asked = .ok change) →
        project.specialise overrides = .ok changed →
          changed.container? name = some container) := by
  constructor
  · rintro ⟨unsigned, trimmed⟩ image given solid
    exact ⟨parse_of_addressable ⟨unsigned, trimmed⟩ (ne_empty_of_ofYaml accepted present) solid
      given, specialise_singleton present image⟩
  · intro unaddressable overrides changed read made
    have unnamed : ∀ change ∈ overrides, change.container ≠ name := by
      rintro change member rfl
      obtain ⟨asked, parsed⟩ := read change member
      obtain ⟨unsigned, trimmed⟩ := addressable_of_parse parsed
      exact unaddressable ⟨unsigned, trimmed⟩
    obtain ⟨-, rfl⟩ := specialise_eq_ok_iff.mp made
    rw [container?_of_unnamed unnamed, present]

/-- A file that states containers with a blank and with an equals sign in their names. -/
def unusualText : String :=
  "project_name: shop\ncontainers:\n  \" app\":\n    image: alpine\n  a=b:\n    image: alpine\n" ++
    "  app:\n    image: alpine\n"

def unusual : Project where
  name := "shop"
  containers := .ofList [ContainerGraph.box " app" [], ContainerGraph.box "a=b" [],
    ContainerGraph.box "app" []]

theorem unusual_accepted : ofYaml unusualText "/project" = .ok unusual :=
  ok_of_toOption (by decide +kernel)

theorem override_reaches_unusual :
    ofYaml unusualText "/project" = .ok unusual ∧
      ImageOverride.parse "app=busybox" = .ok ⟨"app", "busybox"⟩ ∧
      ∃ changed, unusual.specialise [⟨"app", "busybox"⟩] = .ok changed ∧
        changed.container? "app" = some { name := "app", source := .pull "busybox" } ∧
        changed.container? "a=b" = unusual.container? "a=b" ∧
        changed.container? " app" = some (ContainerGraph.box " app" []).2 := by
  have here : unusual.container? "app" = some (ContainerGraph.box "app" []).2 := by decide +kernel
  have beside : unusual.container? " app" = some (ContainerGraph.box " app" []).2 := by
    decide +kernel
  obtain ⟨reads, changed, made, given, others⟩ :=
    (override_reaches unusual_accepted here).1 ⟨by decide, by decide⟩ "busybox" (by decide)
      (by decide)
  have kept := (override_reaches unusual_accepted beside).2 (by decide) [⟨"app", "busybox"⟩] changed
    (List.forall_mem_singleton.mpr ⟨_, reads⟩) made
  exact ⟨unusual_accepted, reads, changed, made, given, others "a=b" (by decide), kept⟩

/-- The text that was meant for a container can give its image to another one, or name a
container that does not exist. -/
theorem override_misses :
    ofYaml unusualText "/project" = .ok unusual ∧
      (unusual.container? " app").isSome ∧ (unusual.container? "a=b").isSome ∧
      trim "busybox" = "busybox" ∧
      ImageOverride.parse (" app" ++ "=" ++ "busybox") = .ok ⟨"app", "busybox"⟩ ∧
      (∃ changed, unusual.specialise [⟨"app", "busybox"⟩] = .ok changed ∧
        (changed.container? " app").map (·.source) = some (.pull "alpine") ∧
        (changed.container? "app").map (·.source) = some (.pull "busybox")) ∧
      ImageOverride.parse ("a=b" ++ "=" ++ "busybox") = .ok ⟨"a", "b=busybox"⟩ ∧
      unusual.specialise [⟨"a", "b=busybox"⟩] = .error (.overrideContainer "a") := by
  refine ⟨unusual_accepted, by decide +kernel, by decide +kernel, by decide, rfl, ?_, rfl, ?_⟩
  · exact ⟨_, rfl, by decide +kernel, by decide +kernel⟩
  · rfl

end Project

end ContainerTasks
