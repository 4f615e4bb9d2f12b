import Attribution.Proofs.Store.History

/-!
# Live associations

An association of a deployment is live after a history if it was reported for the deployment and
the deployment was not replaced since. For addresses and exposures this is exactly what the index
attributes to the deployment: they are never taken away by anything but a purge of the deployment
itself, whoever else shares them.
-/

namespace Attribution

/-- Some application reports the association for the deployment, and no later one replaces the
deployment. -/
def Live (history : History) (deployment : DeploymentId) (association : Association) : Prop :=
  ∃ before application after, history = before ++ application :: after ∧
    application.Reports deployment association ∧
    ∀ later ∈ after, ¬ later.Replaces deployment

variable {deployment : DeploymentId} {association : Association}

theorem not_live_nil : ¬ Live [] deployment association := by
  rintro ⟨before, application, after, split, -⟩
  exact List.cons_ne_nil _ _ (List.append_eq_nil_iff.1 split.symm).2

/-- An association is live from the first application on or from a later one. -/
theorem live_cons {application : Application} {more : History} :
    Live (application :: more) deployment association ↔
      (application.Reports deployment association ∧
        ∀ later ∈ more, ¬ later.Replaces deployment) ∨
      Live more deployment association := by
  constructor
  · rintro ⟨before, reporting, after, split, reported, unreplaced⟩
    cases before with
    | nil =>
      cases split
      exact .inl ⟨reported, unreplaced⟩
    | cons first before =>
      cases split
      exact .inr ⟨before, reporting, after, rfl, reported, unreplaced⟩
  · rintro (⟨reported, unreplaced⟩ | ⟨before, reporting, after, rfl, reported, unreplaced⟩)
    · exact ⟨[], application, more, rfl, reported, unreplaced⟩
    · exact ⟨application :: before, reporting, after, rfl, reported, unreplaced⟩

namespace Index

variable {index : Index}

/-- What was attributed before stays unless the deployment is replaced. -/
theorem attributes_applied (h : index.Consistent) (shared : association.IsShared)
    (application : Application) :
    (index.applied application).Attributes deployment association ↔
      application.Reports deployment association ∨
        (index.Attributes deployment association ∧ ¬ application.Replaces deployment) := by
  obtain ⟨mode, updates⟩ := application
  rw [applied, attributes_mergeAll shared, or_comm]
  refine or_congr Iff.rfl ?_
  cases mode with
  | incremental => simp [prepare, Application.Replaces]
  | replace =>
    change (index.purgeAll (updates.map Update.deployment)).1.Attributes _ _ ↔ _
    rw [attributes_purgeAll h]
    simp [Application.Replaces]

theorem attributes_replay (h : index.Consistent) (shared : association.IsShared)
    (history : History) :
    (index.replay history).Attributes deployment association ↔
      Live history deployment association ∨
        (index.Attributes deployment association ∧
          ∀ application ∈ history, ¬ application.Replaces deployment) := by
  induction history generalizing index with
  | nil => simp [not_live_nil]
  | cons application more ih =>
    rw [replay_cons, ih (h.applied application), attributes_applied h shared, live_cons,
      List.forall_mem_cons, or_and_right, and_assoc, ← or_assoc,
      @or_comm (Live more deployment association)]

/-- The index of a store that was empty at first attributes exactly what is live. -/
theorem attributes_replay_empty (shared : association.IsShared) (history : History) :
    (empty.replay history).Attributes deployment association ↔
      Live history deployment association := by
  have nothing : ¬ empty.Attributes deployment association := by
    cases association <;> simp [Attributes, OwnsAddress, ExposesTarget, empty]
  rw [attributes_replay consistent_empty shared]
  simp [nothing]

end Index

end Attribution
