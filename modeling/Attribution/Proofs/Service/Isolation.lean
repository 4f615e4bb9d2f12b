import Attribution.Proofs.Service.Effect
import Attribution.Proofs.Service.Observation

/-!
# The store does not depend on the delivery

What becomes of records has no effect on the store that they come from. How a store stands after an
action follows from how it stood before, for the few actions that are about the store; all other
actions, and everything that happens by itself, leave it as it is. Therefore two services whose
stores are given the same updates and requests show the same of them all along, whatever their
delivery is like and whatever else is done with either.
-/

namespace Attribution

namespace Action

/-- The action is about the store, and not about what becomes of its records. -/
def concernsStore : Action → Bool
  | .apply _ _ | .want _ | .dropStore => true
  | _ => false

end Action

/-- Those of the actions that are about the store. -/
def storeActions (actions : List Action) : List Action :=
  actions.filter Action.concernsStore

namespace Counters

/-- What is counted of updates, without what is counted of records. -/
def ofUpdates (counters : Counters) : Counters :=
  { counters with outcomes := {} }

theorem ofUpdates_applied (counters : Counters) (mode : Mode) (purged : Nat) :
    (counters.applied mode purged).ofUpdates = counters.ofUpdates.applied mode purged := by
  cases mode <;> rfl

end Counters

/-! ### How a store stands -/

/-- A store, unless it was dropped, and what was counted of its updates. -/
structure Standing where
  store : Option Store
  counters : Counters

namespace Standing

/-- How the store stands after an action. -/
def after (standing : Standing) : Action → Standing
  | .apply mode updates =>
    match standing.store with
    | some store =>
      { store := some (store.apply mode updates).store
        counters := standing.counters.applied mode (store.apply mode updates).purged }
    | none => standing
  | .want id => { standing with store := standing.store.map (·.want id) }
  | .dropStore => { standing with store := none }
  | _ => standing

/-- How the store stands after each of several actions. -/
def course (standing : Standing) : List Action → List Standing
  | [] => []
  | action :: more => standing.after action :: (standing.after action).course more

theorem after_of_not_concernsStore {action : Action} (h : ¬ action.concernsStore)
    (standing : Standing) : standing.after action = standing := by
  cases action <;> first | rfl | exact absurd rfl h

theorem after_eq_map {action : Action} (no_update : ∀ mode updates, action ≠ .apply mode updates)
    (kept : action ≠ .dropStore) (standing : Standing) :
    standing.after action =
      { standing with store := standing.store.map (Store.after · action) } := by
  have same : standing.store.map (fun store => store) = standing.store := Option.map_id'
  cases action with
  | apply mode updates => exact absurd rfl (no_update mode updates)
  | dropStore => exact absurd rfl kept
  | want id => rfl
  | _ => simp only [after, Store.after, same]

end Standing

namespace Service

variable {service : Service}

/-- How the store of a service stands. -/
def standing (service : Service) : Standing where
  store := service.store
  counters := service.counters.ofUpdates

theorem standing_perform (service : Service) (action : Action) :
    (service.perform action).service.standing = service.standing.after action := by
  by_cases update : ∃ mode updates, action = .apply mode updates
  · obtain ⟨mode, updates, rfl⟩ := update
    have kept : Action.apply mode updates ≠ .dropStore := nofun
    rw [standing, store_perform service kept, counters_perform_apply, standing, Standing.after]
    cases service.store with
    | none => rfl
    | some store => simp only [Option.map_some, Store.after, Counters.ofUpdates_applied]
  have no_update : ∀ mode updates, action ≠ .apply mode updates :=
    fun mode updates same => update ⟨mode, updates, same⟩
  have uncounted : (service.perform action).service.counters = service.counters :=
    keepsCounters_perform no_update
  by_cases dropped : action = .dropStore
  · subst dropped
    have gone : (service.perform .dropStore).service.store = none := store_occur_dropStore service
    rw [standing, gone, uncounted]
    rfl
  · rw [Standing.after_eq_map no_update dropped, standing, store_perform service dropped,
      uncounted]
    rfl

/-- Whatever happens by itself leaves the store as it stands. -/
theorem standing_occur (service : Service) (event : Event) :
    (service.occur event).service.standing =
      event.action?.toList.foldl Standing.after service.standing := by
  cases event with
  | action action => exact standing_perform service action
  | move worker =>
    simp only [occur]
    split <;> rfl
  | tick time => rfl

theorem standing_follow (service : Service) (schedule : List Event) :
    (service.follow schedule).standing =
      (storeActions (schedule.filterMap Event.action?)).foldl Standing.after service.standing := by
  induction schedule generalizing service with
  | nil => rfl
  | cons event more ih =>
    rw [follow_cons, ih, standing_occur, List.filterMap_cons]
    cases event.action? with
    | none => rfl
    | some action =>
      by_cases concerned : action.concernsStore
      · simp [storeActions, concerned]
      · simp [storeActions, concerned, Standing.after_of_not_concernsStore concerned]

/-! ### What can be seen of a store -/

/-- What a service shows of its store: the index and the open requests, the sizes, the answers to
all lookups, and what is counted of updates. -/
structure View where
  store : Option Store
  sizes : Option Sizes
  candidates : Endpoint → Answer
  metadata : ContainerId → Answer
  applies : Mode → Nat
  purges : Nat

def view (service : Service) : View where
  store := service.store
  sizes := service.sizes?
  candidates endpoint := (service.step (.lookup endpoint)).answer
  metadata id := (service.step (.container id)).answer
  applies := service.counters.applies
  purges := service.counters.purges

/-- A service that has this store and nothing else. -/
def ofStanding (standing : Standing) : Service where
  store := standing.store
  delivery := { limits := {} }
  counters := standing.counters

/-- A service shows nothing of its store but how the store stands. -/
theorem view_ofStanding (service : Service) :
    (ofStanding service.standing).view = service.view := by
  cases present : service.store <;>
    simp only [view, ofStanding, standing, sizes?, step, perform, withStore, present] <;> rfl

theorem view_follow (service : Service) (schedule : List Event) :
    (service.follow schedule).view =
      (ofStanding ((storeActions (schedule.filterMap Event.action?)).foldl Standing.after
        service.standing)).view := by
  rw [← view_ofStanding, standing_follow]

/-- What a service shows of its store right after an action that is about the store. -/
def shows (service : Service) : Event → List View
  | .action action =>
    if action.concernsStore then [(service.occur (.action action)).service.view] else []
  | _ => []

theorem seesActions_shows : SeesActions shows where
  move _ _ := rfl
  tick _ _ := rfl
  sleep _ _ := rfl

theorem observed_shows (service : Service) (schedule : List Event) :
    observed shows service schedule =
      (service.standing.course (storeActions (schedule.filterMap Event.action?))).map
        fun standing => (ofStanding standing).view := by
  induction schedule generalizing service with
  | nil => rfl
  | cons event more ih =>
    rw [observed, ih, standing_occur, List.filterMap_cons]
    cases event with
    | action action =>
      have stands : (service.occur (.action action)).service.standing =
          service.standing.after action := standing_occur service (.action action)
      by_cases concerned : action.concernsStore
      · simp [Event.action?, storeActions, shows, concerned, Standing.course, ← stands,
          view_ofStanding]
      · simp [Event.action?, storeActions, shows, concerned,
          Standing.after_of_not_concernsStore concerned]
    | _ => rfl

/-- A sleep is not about the store. -/
theorem storeActions_filter_isSleep (actions : List Action) :
    storeActions (actions.filter (! ·.isSleep)) = storeActions actions := by
  rw [storeActions, storeActions, List.filter_filter]
  refine List.filter_congr fun action _ => ?_
  cases action <;> rfl

/-- The delivery never disturbs the store. Two services may differ in their limits, and apart from
the actions that are about the store anything may be done with either and anything may happen in
between; if these actions are the same in the same order, then both show the same of their stores
after each of them, and at the end. -/
theorem undisturbed_follow (limits limits' : Limits) (instrumented instrumented' : Bool) :
    (∀ schedule schedule' : List Event,
      storeActions (schedule.filterMap Event.action?) =
          storeActions (schedule'.filterMap Event.action?) →
        observed shows (fresh limits instrumented) schedule =
            observed shows (fresh limits' instrumented') schedule' ∧
          ((fresh limits instrumented).follow schedule).view =
            ((fresh limits' instrumented').follow schedule').view) ∧
    ∀ actions actions' : List Action, storeActions actions = storeActions actions' →
      observedIn shows (fresh limits instrumented) actions =
          observedIn shows (fresh limits' instrumented') actions' ∧
        ((fresh limits instrumented).run actions).view =
          ((fresh limits' instrumented').run actions').view := by
  have schedules (schedule schedule' : List Event)
      (same : storeActions (schedule.filterMap Event.action?) =
        storeActions (schedule'.filterMap Event.action?)) :
      observed shows (fresh limits instrumented) schedule =
          observed shows (fresh limits' instrumented') schedule' ∧
        ((fresh limits instrumented).follow schedule).view =
          ((fresh limits' instrumented').follow schedule').view := by
    refine ⟨?_, ?_⟩
    · rw [observed_shows, observed_shows, same]
      rfl
    · rw [view_follow, view_follow, same]
      rfl
  refine ⟨schedules, ?_⟩
  intro actions actions' same
  obtain ⟨schedule, enacts⟩ := exists_enacts (fresh limits instrumented) actions
  obtain ⟨schedule', enacts'⟩ := exists_enacts (fresh limits' instrumented') actions'
  have acts : storeActions (schedule.filterMap Event.action?) =
      storeActions (schedule'.filterMap Event.action?) := by
    rw [enacts.acts, enacts'.acts, storeActions_filter_isSleep, storeActions_filter_isSleep, same]
  rw [← enacts.observed seesActions_shows, ← enacts'.observed seesActions_shows, ← enacts.follow,
    ← enacts'.follow]
  exact schedules schedule schedule' acts

/-- One service has nowhere to send records to. The other delivers one of them; the second times out
and the third comes when the delivery was stopped. Their stores are the same all along. -/
theorem undisturbed_follow_stopped_delivery :
    let report (id : String) : Association := .container ⟨id⟩ ⟨⟨"a"⟩, "pod", "app", ⟨id⟩⟩
    let first : List Action :=
      [.want ⟨"x"⟩, .want ⟨"y"⟩, .want ⟨"z"⟩,
        .apply .incremental [⟨⟨"a"⟩, some (.ofReports [report "x", report "y"])⟩]]
    let last : Action := .apply .replace [⟨⟨"a"⟩, some (.ofReports [report "z"])⟩]
    let actions : List Action := first ++ [last]
    let actions' : List Action :=
      [.register "callbacks" (some 1), .startDelivery] ++ first ++
        [.sleep 7, .drain "callbacks" none, .stopDelivery, last, .close "callbacks", .unregister]
    let schedule : List Event := actions.map .action
    let schedule' : List Event := actions'.map .action ++ [.tick 9, .move 1]
    let limits : Limits := { queueCapacity := 1, workers := 2, sendTimeout := 5 }
    let outcomes : Tally := { delivered := 1, timeout := 1, closed := 1 }
    ((fresh limits true).run actions').counters.outcomes = outcomes ∧
      storeActions actions = storeActions actions' ∧
      observedIn shows (fresh {} false) actions = observedIn shows (fresh limits true) actions' ∧
      ((fresh {} false).run actions).view = ((fresh limits true).run actions').view ∧
      storeActions (schedule.filterMap Event.action?) =
        storeActions (schedule'.filterMap Event.action?) ∧
      ((fresh {} false).follow schedule).view = ((fresh limits true).follow schedule').view := by
  intro report first last actions actions' schedule schedule' limits outcomes
  have delivered : ((fresh limits true).run actions').counters.outcomes = outcomes := by
    decide +kernel +revert
  have same : storeActions actions = storeActions actions' := rfl
  have same' : storeActions (schedule.filterMap Event.action?) =
      storeActions (schedule'.filterMap Event.action?) := rfl
  obtain ⟨schedules, runs⟩ := undisturbed_follow {} limits false true
  exact ⟨delivered, same, (runs _ _ same).1, (runs _ _ same).2, same',
    (schedules _ _ same').2⟩

end Service

end Attribution
