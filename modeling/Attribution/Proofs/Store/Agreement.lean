import Attribution.Proofs.Service.Impact

/-!
# The maps of a store always agree

The index is consistent at the start and every application keeps it so. The agreement is what a
purge relies on: a deployment's own entry never lists a container of another deployment, so a
purge that checks what it takes out does the same as one that does not.
-/

namespace Attribution.Service

theorem consistent_index_afterAll (actions : List Action) :
    (Store.empty.afterAll actions).index.Consistent := by
  rw [Store.index_afterAll]
  exact Index.consistent_empty.replay (applications actions)

/-- Whatever was done to a service, the maps agree in the store that it has. -/
theorem consistent_index_follow {limits : Limits} {instrumented : Bool} {schedule : List Event}
    {store : Store} (there : ((fresh limits instrumented).follow schedule).store = some store) :
    store.index.Consistent := by
  rw [eq_afterAll_of_store_follow rfl there]
  exact consistent_index_afterAll (schedule.filterMap Event.action?)

theorem consistent_index_run {limits : Limits} {instrumented : Bool} {actions : List Action}
    {store : Store} (there : ((fresh limits instrumented).run actions).store = some store) :
    store.index.Consistent := by
  obtain ⟨schedule, -, same⟩ := exists_schedule (fresh limits instrumented) actions
  rw [← same] at there
  exact consistent_index_follow there

/-- In every run, whatever was applied and in whatever order, the maps of the store's index agree
and hold nothing empty. No purge that may come next finds a container of another deployment among
those it takes out. -/
theorem consistent_run (limits : Limits) (instrumented : Bool) {actions : List Action}
    (kept : .dropStore ∉ actions) :
    ∃ store, ((fresh limits instrumented).run actions).store = some store ∧
      store.index.Consistent ∧
      ∀ deployments,
        store.index.purgeAllOwn? deployments = some (store.index.purgeAll deployments).1 := by
  have consistent := consistent_index_afterAll actions
  refine ⟨Store.empty.afterAll actions, store_run rfl kept, consistent, ?_⟩
  intro deployments
  exact consistent.purgeAllOwn?_eq_some deployments

/-- A container that two deployments report in one update, of which the first owns nothing else,
and a purge of that first deployment afterwards. -/
theorem consistent_run_moved_container :
    let batch := Batch.ofReports [.container ⟨"c"⟩ ⟨⟨"a"⟩, "pod", "app", ⟨"c"⟩⟩]
    let actions : List Action :=
      [.want ⟨"c"⟩, .apply .replace [⟨⟨"a"⟩, some batch⟩, ⟨⟨"b"⟩, some batch⟩],
        .register "callbacks" (some 1), .apply .replace [⟨⟨"a"⟩, none⟩]]
    Action.dropStore ∉ actions ∧
      ∃ store, ((fresh {} false).run actions).store = some store ∧
        store.index.Consistent ∧
        ∀ deployments,
          store.index.purgeAllOwn? deployments = some (store.index.purgeAll deployments).1 := by
  intro batch actions
  have kept : Action.dropStore ∉ actions := by simp [actions]
  exact ⟨kept, consistent_run {} false kept⟩

end Attribution.Service
