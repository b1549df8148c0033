import ContainerTasks.Run.ImagePool

/-! # How a pool of images goes on

At every turn a pool of images does one of five things: it reports a failure, a preparation
under way goes on to its next pause, one comes to its end, the next in line begins, or all is
done. Each of these has its own equation. What is reported as a failure is that of a preparation which
has ended (`Results.failure_add_eq_some`).
-/

namespace ContainerTasks.Run

namespace Results

variable {results : Results} {place : Nat} {container : String} {outcome : Except Error String}
  {error : Error}

theorem failure_of_due (due : results.due? = some error) : results.failure = some (0, error) := by
  unfold due? at due
  split at due
  · rename_i failure
    rw [failure, Option.some.inj due]
  · cases due

/-- As long as nothing has failed everything has ended well. -/
theorem failure_add_eq_none (sound : (results.add place container outcome).failure = none) :
    results.failure = none ∧ ∃ image, outcome = .ok image := by
  cases outcome with
  | ok image => exact ⟨Option.map_eq_none_iff.mp sound, image, rfl⟩
  | error error =>
      rw [add] at sound
      split at sound
      · rename_i earlier
        rw [sound] at earlier
        cases earlier
      · cases sound

/-- A failure is that of what has just ended, or it was one before. -/
theorem failure_add_eq_some {earlier : Nat}
    (failed : (results.add place container outcome).failure = some (earlier, error)) :
    outcome = .error error ∨ ∃ before, results.failure = some (before, error) := by
  cases outcome with
  | ok image =>
      obtain ⟨⟨before, other⟩, failure, same⟩ := Option.map_eq_some_iff.mp failed
      exact Or.inr ⟨before, failure.trans (by rw [(Prod.mk.inj same).2])⟩
  | error other =>
      rw [add] at failed
      split at failed
      · exact Or.inr ⟨earlier, failed⟩
      · exact Or.inl (congrArg Except.error (Prod.mk.inj (Option.some.inj failed)).2)

/-- What is reported in the end is the failure, if there is one. -/
theorem exists_failure_of_total (fails : results.total = .error error) :
    ∃ earlier, results.failure = some (earlier, error) := by
  unfold total at fails
  split at fails
  · rename_i earlier other failure
    exact ⟨earlier, failure.trans (by rw [Except.error.inj fails])⟩
  · cases fails

theorem total_eq_ok_iff {named : List (String × String)} :
    results.total = .ok named ↔ results.failure = none ∧ results.images = named := by
  unfold total
  cases failure : results.failure with
  | none => simp
  | some failure => simp

end Results

namespace ImagePool

variable {σ : Type} {pool : ImagePool σ} {waiting : List Project.Container}
  {working : List (Preparation σ)} {results : Results} {turns : List Turn} {place : Nat}
  {now later : List (Engine.Moment Engine.BuildNews)}

/-- A failure that is to be reported ends it all. -/
theorem run_due {error : Error} (due : results.due? = some error) :
    pool.run waiting working results turns = throw error := by
  rw [run.eq_def, due]

/-- A preparation under way goes on to its next pause. -/
theorem run_paused (going : results.due? = none)
    (next : pool.nextPlace waiting working turns = place) (inside : place < working.length)
    (paused : stretch working[place].course = (now, some later)) :
    pool.run waiting working results turns = (do
      let advanced ← perform (working[place].advance pool.writeFault now false)
      pool.run waiting (working.set place { advanced with course := advanced.remaining later })
        results (⟨place, false⟩ :: turns)) := by
  subst next
  rw [run.eq_def, going]
  dsimp only
  rw [dif_pos inside]
  split
  · rename_i again after resumed
    obtain ⟨rfl, same⟩ := Prod.mk.inj (paused.symm.trans resumed)
    obtain rfl := Option.some.inj same
    rfl
  · rename_i again ended
    cases (Prod.mk.inj (paused.symm.trans ended)).2

/-- A preparation under way comes to its end. -/
theorem run_ended (going : results.due? = none)
    (next : pool.nextPlace waiting working turns = place) (inside : place < working.length)
    (ended : stretch working[place].course = (now, none)) :
    pool.run waiting working results turns = (do
      let result ← working[place].conclude pool.writeFault now
      pool.run waiting (working.eraseIdx place)
        (results.add place working[place].container result) (⟨place, true⟩ :: turns)) := by
  subst next
  rw [run.eq_def, going]
  dsimp only
  rw [dif_pos inside]
  split
  · rename_i again after paused
    cases (Prod.mk.inj (ended.symm.trans paused)).2
  · rename_i again resumed
    obtain ⟨rfl, -⟩ := Prod.mk.inj (ended.symm.trans resumed)
    rfl

/-- The next in line begins, and goes on to its first pause or to its end. -/
theorem run_begun {container : Project.Container} (going : results.due? = none)
    (next : pool.nextPlace (container :: waiting) working turns = place)
    (outside : ¬ place < working.length) :
    pool.run (container :: waiting) working results turns = (do
      let preparation ← perform (Preparation.start pool.engine pool.project container)
      match stretch preparation.course with
      | (now, some later) => do
        let advanced ← perform (preparation.advance pool.writeFault now false)
        pool.run waiting (working ++ [{ advanced with course := advanced.remaining later }])
          results (⟨place, false⟩ :: turns)
      | (now, none) => do
        let result ← preparation.conclude pool.writeFault now
        pool.run waiting working (results.add working.length preparation.container result)
          (⟨place, true⟩ :: turns)) := by
  subst next
  rw [run.eq_def, going]
  exact dif_neg outside

/-- Where none is in line or under way, all is done. -/
theorem run_over (going : results.due? = none) (next : pool.nextPlace [] working turns = place)
    (outside : ¬ place < working.length) :
    pool.run [] working results turns = ExceptT.mk (pure results.total) := by
  subst next
  rw [run.eq_def, going]
  exact dif_neg outside

/-- Where none is in line or under way, the results are reported. -/
theorem run_nil (pool : ImagePool σ) (results : Results) (turns : List Turn) :
    pool.run [] [] results turns = ExceptT.mk (pure results.total) := by
  cases due : results.due? with
  | none => exact run_over due rfl (Nat.not_lt_zero _)
  | some error =>
      rw [run_due due, Results.total, Results.failure_of_due due]
      rfl

/-- With none in line, one of those under way goes on, if there is any. -/
theorem working_eq_nil (next : pool.nextPlace [] working turns = place)
    (outside : ¬ place < working.length) : working = [] := by
  subst next
  have places : pool.nextPlace [] working turns =
      if pool.schedule turns < working.length then pool.schedule turns else 0 := by
    simp [nextPlace]
  rw [places] at outside
  split at outside
  · contradiction
  · exact List.eq_nil_of_length_eq_zero (Nat.eq_zero_of_not_pos outside)

/-- The next in line begins only while there is room for one more. -/
theorem lt_of_begun {container : Project.Container}
    (next : pool.nextPlace (container :: waiting) working turns = place)
    (outside : ¬ place < working.length) : working.length < pool.limit.count := by
  subst next
  refine Nat.lt_of_not_le fun full => ?_
  have places : pool.nextPlace (container :: waiting) working turns =
      if pool.schedule turns < working.length then pool.schedule turns else 0 := by
    simp [nextPlace, mayBegin, Nat.not_lt.mpr full]
  rw [places] at outside
  split at outside
  · contradiction
  · exact outside (Nat.lt_of_lt_of_le pool.limit.positive full)

/-- The image of a single container is prepared from its first pause to its last. -/
theorem run_single (pool : ImagePool σ) (container : Project.Container) (results : Results)
    (turns : List Turn) :
    pool.run [container] [] results turns =
      match results.due? with
      | some error => throw error
      | none => (do
        let preparation ← perform (Preparation.start pool.engine pool.project container)
        match stretch preparation.course with
        | (now, some later) => do
          let advanced ← perform (preparation.advance pool.writeFault now false)
          pool.run [] [{ advanced with course := advanced.remaining later }] results
            (⟨pool.nextPlace [container] [] turns, false⟩ :: turns)
        | (now, none) => do
          let result ← preparation.conclude pool.writeFault now
          ExceptT.mk (pure (results.add 0 preparation.container result).total)) := by
  cases going : results.due? with
  | some error => exact run_due going
  | none =>
      rw [run_begun going rfl (Nat.not_lt_zero _)]
      refine bind_congr fun preparation => ?_
      cases stretch preparation.course with
      | mk now later =>
          cases later with
          | none => exact bind_congr fun result => run_nil pool _ _
          | some later => rfl

end ImagePool

end ContainerTasks.Run
