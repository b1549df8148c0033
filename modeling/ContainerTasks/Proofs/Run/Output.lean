import ContainerTasks.Proofs.Run.Cleanup

/-! # What is written in the course of a task

What a run writes, and whether it is cancelled, is a view of the run to which nothing adds
but writes (`written`); no cancellation is ever taken back. Calls, and with them starting and
discarding containers, write nothing (`Mute`), and preparing images ends with an output error
only if a write fails (`Setup.prepare_written`).
-/

namespace ContainerTasks.Run

variable {σ α : Type}

/-- The view of a run that its output gives. What was cancelled stays so. -/
def written : History (State σ) Bytes where
  Adds before items after :=
    after.output = before.output ++ items ∧ (before.cancelled = true → after.cancelled = true)
  refl _ := ⟨(List.append_nil _).symm, id⟩
  append := by
    rintro first middle last items more ⟨adds, stays⟩ ⟨addsMore, staysMore⟩
    exact ⟨by rw [addsMore, adds, List.append_assoc], staysMore ∘ stays⟩

/-- An action writes nothing. -/
abbrev Mute (action : Action σ α) : Prop :=
  written.Confines (fun _ => False) action

namespace Mute

theorem of_eq {action : Action σ α}
    (same : ∀ before, (outcome action before).2.output = before.output ∧
      (before.cancelled = true → (outcome action before).2.cancelled = true)) : Mute action :=
  fun before => ⟨[], ⟨(same before).1.trans (List.append_nil _).symm, (same before).2⟩, by simp⟩

theorem records {action : Action σ α} (mute : Mute action) :
    written.Records action fun _ items => items = [] :=
  mute.mono fun _ _ => List.eq_nil_iff_forall_not_mem.mpr

end Mute

theorem note_mute (level : Journal.Level) (message : String) (fields : List (String × String)) :
    Mute (σ := σ) (note level message fields) :=
  .of_eq fun _ => ⟨rfl, id⟩

theorem mark_mute (entry : Mark) : Mute (σ := σ) (mark entry) :=
  .of_eq fun _ => ⟨rfl, id⟩

theorem cancel_mute : Mute (σ := σ) cancel :=
  .of_eq fun _ => ⟨rfl, fun _ => rfl⟩

theorem get_mute : Mute (σ := σ) MonadState.get :=
  .of_eq fun _ => ⟨rfl, id⟩

theorem ask_mute (question : σ → Engine.Reply σ α) : Mute (ask question) :=
  .of_eq fun before => ⟨rfl, fun cancelled => by
    change (before.cancelled || _) = true
    rw [cancelled, Bool.true_or]⟩

theorem beginCall_mute (call : Call) (question : σ → Engine.Reply σ α) :
    Mute (beginCall call question) :=
  (ask_mute question).bind fun _ => get_mute.bind fun _ => (mark_mute _).bind fun _ => .pure

theorem answered_mute (call : Call) (answer : Except Engine.Fault α) :
    Mute (σ := σ) (do
      match answer with
      | .ok _ => mark (.ended call none)
      | .error fault => mark (.ended call (some fault))
      return answer) := by
  cases answer with
  | ok value => exact (mark_mute _).bind fun _ => .pure
  | error fault => exact (mark_mute _).bind fun _ => .pure

theorem endCall_mute (call : Call) (question : σ → Engine.Reply σ (Except Engine.Fault α)) :
    Mute (endCall call question) :=
  (ask_mute question).bind fun answer => answered_mute call answer

/-- A reason for which a write fails. -/
def Refused (writeFault : Nat → Option String) (reason : String) : Prop :=
  ∃ count, writeFault count = some reason

/-- A write fails and leaves all as it was, or adds its content unless this is empty. -/
theorem outcome_write (writeFault : Nat → Option String) (content : Bytes) (state : State σ) :
    (∃ reason, Refused writeFault reason ∧
        outcome (write writeFault content) state = (some reason, state)) ∨
      outcome (write writeFault content) state =
        (none, { state with
          output := state.output ++ if content.isEmpty then [] else [content] }) := by
  have looks : outcome (MonadState.get : Action σ (State σ)) state = (state, state) := rfl
  unfold write
  split
  · right
    rw [List.append_nil]
    rfl
  · rw [outcome_seq, looks]
    cases fault : writeFault state.output.length with
    | some reason =>
        left
        exact ⟨reason, ⟨_, fault⟩, rfl⟩
    | none =>
        right
        rfl

theorem write_written (writeFault : Nat → Option String) (content : Bytes) :
    written.Records (write writeFault content : Action σ _) fun reason _ =>
      ∀ text, reason = some text → Refused writeFault text := by
  intro before
  rcases outcome_write writeFault content before with ⟨reason, refused, same⟩ | same
  · rw [same]
    refine ⟨[], written.refl before, ?_⟩
    rintro _ ⟨⟩
    exact refused
  · rw [same]
    exact ⟨_, ⟨rfl, id⟩, by simp⟩

theorem copyLines_written (writeFault : Nat → Option String) (container : String)
    (lines : List Bytes) :
    written.Records (copyLines writeFault container lines : Action σ _) fun reason _ =>
      ∀ text, reason = some text → Refused writeFault text := by
  induction lines with
  | nil => exact .pure (by simp)
  | cons line rest ih =>
      refine (write_written _ _).bind fun reason _ refused => ?_
      cases reason with
      | none => exact ih
      | some reason => exact .pure refused

theorem happen_mute (container : String) (moments : List (Engine.Moment Engine.BuildNews)) :
    Mute (σ := σ) (happen container moments) := by
  induction moments with
  | nil => exact .pure
  | cons moment rest ih =>
      cases moment with
      | pause => exact ih
      | cancel => exact cancel_mute.bind fun _ => ih
      | news news =>
          cases news with
          | output text => exact ih.bind fun _ => .pure
          | progress steps => exact (note_mute _ _ _).bind fun _ => ih

namespace Preparation

/-- If output could not be copied, a write had failed. -/
def Refusals (writeFault : Nat → Option String) (preparation : Preparation σ) : Prop :=
  ∀ reason, preparation.copyFault = some reason → Refused writeFault reason

variable {writeFault : Nat → Option String} {preparation : Preparation σ}

theorem start_written (writeFault : Nat → Option String) (engine : Engine σ) (project : String)
    (container : Project.Container) :
    written.Records (Preparation.start engine project container) fun preparation _ =>
      preparation.Refusals writeFault := by
  have clean : ∀ preparation : Preparation σ, preparation.copyFault = none →
      preparation.Refusals writeFault := by
    intro preparation none reason same
    rw [none] at same
    cases same
  unfold Preparation.start
  cases Method.ofContainer project container with
  | pull image => exact (beginCall_mute _ _).records.bind fun work _ _ => .pure (clean _ rfl)
  | build request =>
      refine get_mute.records.bind fun state _ _ => ?_
      exact (beginCall_mute _ _).records.bind fun work _ _ => .pure (clean _ rfl)

theorem copy_written (refusals : preparation.Refusals writeFault) (output : Bytes)
    (closing : Bool) :
    written.Records (preparation.copy writeFault output closing) fun copied _ =>
      copied.Refusals writeFault := by
  unfold copy
  split
  · exact .pure refusals
  · exact (copyLines_written _ _ _).bind fun reason _ refused => .pure refused

theorem advance_written (refusals : preparation.Refusals writeFault)
    (now : List (Engine.Moment Engine.BuildNews)) (closing : Bool) :
    written.Records (preparation.advance writeFault now closing) fun advanced _ =>
      advanced.Refusals writeFault :=
  (happen_mute _ _).records.bind fun output _ _ => copy_written refusals output closing

theorem result_written (refusals : preparation.Refusals writeFault)
    (answer : Except Engine.Fault String) :
    written.Records (preparation.result answer).run fun outcome _ =>
      ∀ reason, outcome = .error (.output reason) → Refused writeFault reason := by
  unfold result
  cases faulty : preparation.copyFault with
  | some reason =>
      refine .throw ?_
      rintro _ ⟨⟩
      exact refusals _ faulty
  | none =>
      dsimp only
      split
      · exact .throw (by simp)
      · exact .throw (by simp)
      · exact (note_mute _ _ _).records.lift fun _ _ _ => .pure (by simp)
      · exact (note_mute _ _ _).records.lift fun _ _ _ => .pure (by simp)

theorem conclude_written (refusals : preparation.Refusals writeFault)
    (now : List (Engine.Moment Engine.BuildNews)) :
    written.Records (preparation.conclude writeFault now).run fun result _ =>
      ∀ reason, result = .ok (.error (.output reason)) ∨ result = .error (.output reason) →
        Refused writeFault reason := by
  unfold conclude
  refine (happen_mute _ _).records.lift fun output _ _ => ?_
  refine (endCall_mute _ _).records.lift fun answer _ _ => ?_
  split
  · exact .throw (by simp)
  · refine (copy_written refusals output true).lift fun copied _ refused => ?_
    refine .lifted ((result_written refused answer).mono fun outcome _ refuses reason either => ?_)
    exact refuses reason (Except.ok.inj (either.resolve_right nofun))

end Preparation

/-- If a failure of output is to be reported, a write had failed. -/
def Results.Refusals (writeFault : Nat → Option String) (results : Results) : Prop :=
  ∀ earlier reason, results.failure = some (earlier, .output reason) → Refused writeFault reason

theorem Results.Refusals.of_none {writeFault : Nat → Option String} {results : Results}
    (sound : results.failure = none) : results.Refusals writeFault := by
  intro earlier reason failed
  rw [sound] at failed
  cases failed

theorem Results.Refusals.add {writeFault : Nat → Option String} {results : Results} {place : Nat}
    {container : String} {outcome : Except Error String} (refusals : results.Refusals writeFault)
    (refused : ∀ reason, outcome = .error (.output reason) → Refused writeFault reason) :
    (results.add place container outcome).Refusals writeFault := by
  intro earlier reason failed
  rcases failure_add_eq_some failed with same | ⟨before, failure⟩
  · exact refused reason same
  · exact refusals before reason failure

namespace ImagePool

/-- Preparing images ends with an output error only if a write fails. -/
theorem run_written (pool : ImagePool σ) (waiting : List Project.Container)
    (working : List (Preparation σ)) (results : Results) (turns : List Turn)
    (refusals : ∀ preparation ∈ working, preparation.Refusals pool.writeFault)
    (failures : results.Refusals pool.writeFault) :
    written.Records (pool.run waiting working results turns).run fun result _ =>
      ∀ reason, result = .error (.output reason) → Refused pool.writeFault reason := by
  -- What is kept is that a preparation under way has had no other reason to stop copying.
  induction waiting, working, results, turns using ImagePool.run.induct pool with
  | case1 waiting working results turns error due =>
      rw [run_due due]
      refine .throw ?_
      rintro reason ⟨⟩
      exact failures 0 reason (Results.failure_of_due due)
  | case2 waiting working results turns going place inside preparation now later paused ih =>
      rw [run_paused going rfl inside paused]
      refine (Preparation.advance_written (refusals _ (List.getElem_mem inside)) _ _).lift ?_
      intro advanced _ refused
      refine ih advanced (fun other member => ?_) failures
      rcases List.mem_or_eq_of_mem_set member with old | rfl
      · exact refusals other old
      · exact refused
  | case3 waiting working results turns going place inside preparation now ended ih =>
      rw [run_ended going rfl inside ended]
      refine (Preparation.conclude_written (refusals _ (List.getElem_mem inside)) _).attempt ?_ ?_
      · intro outcome _ refused
        refine ih outcome (fun other member => refusals other (List.mem_of_mem_eraseIdx member)) ?_
        exact failures.add fun reason same => refused reason (Or.inl (congrArg Except.ok same))
      · rintro error _ refused reason ⟨⟩
        exact refused reason (Or.inr rfl)
  | case4 working results turns going place outside =>
      rw [run_over going rfl outside]
      refine .pure fun reason fails => ?_
      obtain ⟨earlier, failure⟩ := Results.exists_failure_of_total fails
      exact failures earlier reason failure
  | case5 working results turns going container waiting place outside paused ended =>
      rw [run_begun going rfl outside]
      refine (Preparation.start_written pool.writeFault _ _ _).lift fun preparation _ refused => ?_
      split
      · refine (Preparation.advance_written refused _ _).lift fun advanced _ refusedNext => ?_
        exact paused _ advanced
          (List.forall_mem_append.mpr ⟨refusals, List.forall_mem_singleton.mpr refusedNext⟩) failures
      · refine (Preparation.conclude_written refused _).attempt ?_ ?_
        · intro outcome _ refused
          refine ended preparation outcome refusals (failures.add fun reason same => ?_)
          exact refused reason (Or.inl (congrArg Except.ok same))
        · rintro error _ refused reason ⟨⟩
          exact refused reason (Or.inr rfl)

theorem prepare_written (pool : ImagePool σ) (containers : List Project.Container) :
    written.Records (pool.prepare containers).run fun result _ =>
      ∀ reason, result = .error (.output reason) → Refused pool.writeFault reason := by
  refine (pool.run_written containers [] _ [] (by simp) (.of_none rfl)).attempt ?_ ?_
  · exact fun images _ _ => .pure (by simp)
  · rintro error _ refused reason ⟨⟩
    exact refused reason rfl

end ImagePool

namespace Setup

theorem prepare_written (setup : Setup σ) (containers : List Project.Container) :
    written.Records (setup.prepare containers).run fun result _ =>
      ∀ reason, result = .error (.output reason) → Refused setup.writeFault reason := by
  by_cases permitted : setup.Permitted
  · rw [setup.prepare_of_permitted permitted]
    exact (setup.poolOf permitted).prepare_written containers
  · rw [setup.prepare_of_not_permitted permitted]
    exact .throw (by simp)

end Setup

end ContainerTasks.Run
