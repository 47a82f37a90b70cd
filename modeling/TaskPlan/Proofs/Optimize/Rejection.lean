import TaskPlan.Proofs.Index.Asked
import TaskPlan.Proofs.Optimize.Reachable

/-!
# Rejected runs

A run checks first that there is a strategy for each directive. Past that check it may
still fail, but not with the fault of the check, and so a run that is rejected has not
asked the index for anything (`optimize_rejected`).
-/

namespace TaskPlan

namespace Optimize

variable {registry : Registry} {params : OptimizeParams} {input : TaskGraph} {index : Index}
  {removed : SortedSet String} {ids : TaskIds}

def Rejects (fault : Error) : Prop := ∃ label tag, fault = .config (.unregisteredDirective label tag)

theorem find_not_rejects {tag : String} {fault : Error} (failed : registry.find tag = .error fault) :
    ¬ Rejects fault := by
  rw [Registry.find] at failed
  split at failed
  · cases failed
  · cases failed
    rintro ⟨_, _, same⟩
    cases same

theorem strategyError_not_rejects (task : Task) (fault : StrategyFault) :
    ¬ Rejects (strategyError task fault) := by
  rintro ⟨_, _, same⟩
  cases same

theorem shouldRemove_not_rejects {fault : Error}
    (failed : shouldRemove registry params input removed label = .error fault) : ¬ Rejects fault := by
  unfold shouldRemove at failed
  split at failed
  · cases failed
  split at failed
  · cases failed
  split at failed
  · cases failed
  rename_i task _
  split at failed
  · cases failed
  rcases bind_error_iff.mp failed with found | ⟨strategy, -, failed⟩
  · exact find_not_rejects found
  · obtain ⟨inner, -, rfl⟩ := mapError_error_iff.mp failed
    exact strategyError_not_rejects task inner

theorem removals_not_rejects {fault : Error} (failed : removals registry params input = .error fault) :
    ¬ Rejects fault := by
  refine (foldlM_outcome (fun _ _ => True) (fun fault => ¬ Rejects fault) ?_ trivial).2 fault failed
  intro done label rest removed split _
  refine ⟨fun _ _ => trivial, fun fault failed => ?_⟩
  rcases bind_error_iff.mp failed with asked | ⟨gone, -, failed⟩
  · exact shouldRemove_not_rejects asked
  · cases gone <;> cases failed

theorem candidatePaths_not_rejects {candidates : List Candidate} {fault : Error}
    (failed : candidates.mapM (candidatePaths registry) = .error fault) : ¬ Rejects fault := by
  obtain ⟨candidate, -, failed⟩ := exists_mapM_error failed
  rcases bind_error_iff.mp failed with found | ⟨strategy, -, failed⟩
  · exact find_not_rejects found
  · cases failed

theorem replaceCandidate_avoids (replaced : KeyMap String) (candidate : Candidate) :
    Lookup.Avoids index Rejects (replaceCandidate registry replaced candidate) := by
  refine (Lookup.Avoids.ofResult fun _ failed => find_not_rejects failed).bind fun strategy _ => ?_
  refine (Lookup.Avoids.mapError (strategyError_not_rejects candidate.task) _).bind fun found _ => ?_
  cases found <;> exact Lookup.Avoids.pure _

theorem replacements_avoids :
    Lookup.Avoids index Rejects (replacements registry params input removed) := by
  refine Lookup.Avoids.foldlM (fun replaced layer => ?_) _
  refine (Lookup.Avoids.ofResult fun _ failed => candidatePaths_not_rejects failed).bind fun _ _ => ?_
  refine Lookup.Avoids.bind (fun _ _ failed => by cases failed) fun _ _ => ?_
  exact Lookup.Avoids.foldlM replaceCandidate_avoids _

/-- A run that is rejected for a directive has not asked for anything. -/
theorem optimize_rejected (sound : input.Sound) {fault : Error} {cache after : Cache}
    (ran : (optimize registry ids params input).run index cache = (.error fault, after))
    (rejected : Rejects fault) : after = cache := by
  cases checked : input.tasks.values.forM registry.check with
  | error inner =>
    rw [optimize, checked] at ran
    cases ran
    rfl
  | ok _ =>
    have avoids : Lookup.Avoids index Rejects (optimize registry ids params input) := by
      rw [optimize, checked]
      refine Lookup.Avoids.bind (fun _ _ failed => by cases failed) fun _ _ => ?_
      refine (Lookup.Avoids.ofResult fun _ failed => removals_not_rejects failed).bind
        fun removed removals => ?_
      refine replacements_avoids.bind fun replaced pass => Lookup.Avoids.ofResult fun _ failed => ?_
      have removals := Lookup.gives_ofResult.mp removals
      rw [settle, survivors_rebuilt sound (removals_known sound removals)
        (replacements_within sound pass)] at failed
      cases failed
    exact absurd rejected (avoids cache fault (by rw [ran]))

end Optimize

end TaskPlan
