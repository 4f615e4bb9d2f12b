import Attribution.Proofs.Delivery.Opacity
import Attribution.Proofs.Service.Observation

/-!
# Metadata is opaque to the service

Two services are told the same, but for the metadata of containers, which one of them is given
through some function. Then they never differ but by this function. They own and look up the same,
wait for the same, count the same and are as large; the same workers make the same moves at the same
moments; and wherever one holds or hands out a record, the other has its image there. Nothing that
metadata says, the names of a deployment and of a container included, has any influence.
-/

namespace Attribution

variable (f : Metadata → Metadata)

/-! ### Replacing metadata -/

/-- The action with the metadata in its batches replaced, if it is an update. -/
def Action.mapMetadata : Action → Action
  | .apply mode updates => .apply mode (updates.map (Update.mapMetadata f))
  | other => other

/-- The answer with the metadata that it gives replaced, if it gives any. -/
def Answer.mapMetadata : Answer → Answer
  | .metadata told => .metadata (told.map f)
  | .records given => .records (given.map f)
  | other => other

def Event.mapMetadata : Event → Event
  | .action given => .action (given.mapMetadata f)
  | other => other

def Service.mapMetadata (service : Service) : Service :=
  { service with
    store := service.store.map (Store.mapMetadata f)
    delivery := service.delivery.mapMetadata f }

def Reaction.mapMetadata (reaction : Reaction) : Reaction where
  service := reaction.service.mapMetadata f
  answer := reaction.answer.mapMetadata f
  notices := reaction.notices.map (Notice.mapMetadata f)

namespace Reaction

variable (reaction : Reaction)

@[simp] theorem service_mapMetadata :
    (reaction.mapMetadata f).service = reaction.service.mapMetadata f := rfl

@[simp] theorem notices_mapMetadata :
    (reaction.mapMetadata f).notices = reaction.notices.map (Notice.mapMetadata f) := rfl

end Reaction

@[simp] theorem Action.isSleep_mapMetadata (action : Action) :
    (action.mapMetadata f).isSleep = action.isSleep := by
  cases action <;> rfl

/-- Outcomes are counted alike, whatever the records are. -/
@[simp] theorem Counters.noted_map_mapMetadata (counters : Counters) (notices : List Notice) :
    counters.noted (notices.map (Notice.mapMetadata f)) = counters.noted notices := by
  simp only [noted, Tally.addAll, List.foldl_map]
  rfl

namespace Service

variable (service : Service)

@[simp] theorem store_mapMetadata :
    (service.mapMetadata f).store = service.store.map (Store.mapMetadata f) := rfl

@[simp] theorem delivery_mapMetadata :
    (service.mapMetadata f).delivery = service.delivery.mapMetadata f := rfl

@[simp] theorem registered_mapMetadata :
    (service.mapMetadata f).registered = service.registered := rfl

@[simp] theorem counters_mapMetadata : (service.mapMetadata f).counters = service.counters := rfl

@[simp] theorem mapMetadata_fresh (limits : Limits) (instrumented : Bool) :
    (fresh limits instrumented).mapMetadata f = fresh limits instrumented := by
  simp [mapMetadata, fresh, Delivery.mapMetadata]

@[simp] theorem sizes?_mapMetadata : (service.mapMetadata f).sizes? = service.sizes? := by
  simp only [sizes?, mapMetadata, Option.map_map, Function.comp_def, Store.sizes_mapMetadata]

@[simp] theorem families?_mapMetadata : (service.mapMetadata f).families? = service.families? := by
  rw [families?, sizes?_mapMetadata]
  rfl

/-! ### One action -/

theorem withStore_mapMetadata {use use_image : Store → Reaction}
    (used : ∀ store, use_image (store.mapMetadata f) = (use store).mapMetadata f) :
    (service.mapMetadata f).withStore use_image = (service.withStore use).mapMetadata f := by
  rw [withStore, store_mapMetadata, withStore]
  cases service.store with
  | none => rfl
  | some store => exact used store

theorem withChannel_mapMetadata (name : ChannelName) {use use_image : Channel → Reaction}
    (used : ∀ channel, use_image (channel.mapMetadata f) = (use channel).mapMetadata f) :
    (service.mapMetadata f).withChannel name use_image =
      (service.withChannel name use).mapMetadata f := by
  rw [withChannel, delivery_mapMetadata, Delivery.getElem?_channels_mapMetadata, withChannel]
  cases service.delivery.channels[name]? with
  | none => rfl
  | some channel => exact used channel

theorem withMetrics_mapMetadata {use : List OpenMetrics.Family → Answer}
    (plain : ∀ families, (use families).mapMetadata f = use families) :
    (service.mapMetadata f).withMetrics use = (service.withMetrics use).mapMetadata f := by
  rw [withMetrics, families?_mapMetadata, withMetrics]
  cases service.families? with
  | none => rfl
  | some families => simp [answering, Reaction.mapMetadata, plain]

/-- Resolved records are handed on alike: which channel they are for is the registered one's part,
and whether there is place for them that of the queue. -/
theorem dispatch_mapMetadata (resolved : List Metadata) :
    (service.mapMetadata f).dispatch (resolved.map f) =
      ((service.dispatch resolved).1.mapMetadata f,
        (service.dispatch resolved).2.map (Notice.mapMetadata f)) := by
  simp only [dispatch, List.map_eq_nil_iff, registered_mapMetadata, delivery_mapMetadata]
  split
  · rfl
  · cases service.registered with
    | some channel =>
      exact Delivery.enqueue_mapMetadata f service.delivery { channel, records := resolved }
    | none =>
      simp only [List.map_map]
      rfl

theorem applyUpdates_mapMetadata (store : Store) (mode : Mode) (updates : List Update) :
    (service.mapMetadata f).applyUpdates (store.mapMetadata f) mode
        (updates.map (Update.mapMetadata f)) =
      (service.applyUpdates store mode updates).mapMetadata f := by
  have applied := store.apply_mapMetadata f mode updates
  have resolved : ((store.apply mode updates).mapMetadata f).resolved =
      (store.apply mode updates).resolved.map f := rfl
  simp only [applyUpdates, applied, resolved, dispatch_mapMetadata, Reaction.mapMetadata,
    Answer.mapMetadata, List.map_map, Function.comp_def, Update.isEmpty?_mapMetadata]
  rfl

theorem register_mapMetadata (name : ChannelName) (capacity : Option Nat) :
    (service.mapMetadata f).register name capacity =
      (service.register name capacity).mapMetadata f := by
  unfold register
  rw [delivery_mapMetadata, Delivery.hasChannel_mapMetadata]
  split
  · rfl
  · split
    · rfl
    · rfl
    · split
      · rw [Delivery.addChannel_mapMetadata]
        rfl
      · rfl

theorem drain_mapMetadata (name : ChannelName) (channel : Channel) (limit : Option Nat) :
    (service.mapMetadata f).drain name (channel.mapMetadata f) limit =
      (service.drain name channel limit).mapMetadata f := by
  rw [drain, delivery_mapMetadata, Delivery.drain_mapMetadata, drain]
  change (if channel.isOpen then _ else _) = _
  split <;> rfl

theorem respond_mapMetadata (method target : String) :
    (service.mapMetadata f).respond method target =
      (service.respond method target).mapMetadata f := by
  rw [respond, respond]
  split
  · rfl
  · exact withMetrics_mapMetadata f service fun _ => rfl

/-- An action with its metadata replaced has the same effect and the same answer, but for the
metadata. -/
theorem perform_mapMetadata (action : Action) :
    (service.mapMetadata f).perform (action.mapMetadata f) =
      (service.perform action).mapMetadata f := by
  cases action with
  | apply mode updates =>
    exact withStore_mapMetadata f service fun store =>
      applyUpdates_mapMetadata f service store mode updates
  | lookup endpoint => exact withStore_mapMetadata f service fun store => rfl
  | container id =>
    apply withStore_mapMetadata
    intro store
    rw [Store.metadata?_mapMetadata]
    rfl
  | want id => exact withStore_mapMetadata f service fun store => rfl
  | register name capacity =>
    exact withStore_mapMetadata f service fun _ => register_mapMetadata f service name capacity
  | unregister => exact withStore_mapMetadata f service fun _ => rfl
  | close name =>
    apply withChannel_mapMetadata
    intro channel
    rw [delivery_mapMetadata, Delivery.closeChannel_mapMetadata]
    rfl
  | drain name limit =>
    exact withChannel_mapMetadata f service name fun channel =>
      drain_mapMetadata f service name channel limit
  | startDelivery =>
    simp only [perform, Action.mapMetadata, delivery_mapMetadata, Delivery.start_mapMetadata]
    change (if service.delivery.phase = .unstarted then _ else _) = _
    split <;> rfl
  | stopDelivery =>
    simp only [perform, Action.mapMetadata, delivery_mapMetadata, Delivery.stop_mapMetadata]
    rfl
  | completion =>
    simp only [perform, Action.mapMetadata, delivery_mapMetadata, Delivery.completed?_mapMetadata]
    rfl
  | sleep duration =>
    simp only [perform, Action.mapMetadata, delivery_mapMetadata, Delivery.sleep_mapMetadata]
    rfl
  | dropStore => exact withStore_mapMetadata f service fun _ => rfl
  | metrics => exact withMetrics_mapMetadata f service fun _ => rfl
  | samples => exact withMetrics_mapMetadata f service fun _ => rfl
  | setReady value => rfl
  | request method target => exact respond_mapMetadata f service method target

/-! ### Schedules and runs -/

theorem occur_mapMetadata (event : Event) :
    (service.mapMetadata f).occur (event.mapMetadata f) = (service.occur event).mapMetadata f := by
  cases event with
  | action action =>
    simp only [occur, Event.mapMetadata, perform_mapMetadata, Reaction.service_mapMetadata,
      Reaction.notices_mapMetadata, counters_mapMetadata, Counters.noted_map_mapMetadata]
    rfl
  | move worker =>
    simp only [occur, Event.mapMetadata, delivery_mapMetadata, Delivery.move?_mapMetadata]
    cases service.delivery.move? worker with
    | none => rfl
    | some move =>
      have noticed : (move.notice?.map (Notice.mapMetadata f)).toList =
          move.notice?.toList.map (Notice.mapMetadata f) := Option.toList_map
      simp only [Option.map_some, Delivery.make_mapMetadata, Move.notice?_mapMetadata, noticed,
        counters_mapMetadata, Counters.noted_map_mapMetadata]
      rfl
  | tick time => rfl

theorem step_mapMetadata (action : Action) :
    (service.mapMetadata f).step (action.mapMetadata f) = (service.step action).mapMetadata f := by
  simp only [step, perform_mapMetadata, Reaction.service_mapMetadata,
    Reaction.notices_mapMetadata, delivery_mapMetadata, Delivery.settle_mapMetadata,
    ← List.map_append, counters_mapMetadata, Counters.noted_map_mapMetadata]
  rfl

/-- What comes of a schedule with its metadata replaced is what comes of the schedule, with its
metadata replaced. -/
theorem follow_mapMetadata (schedule : List Event) :
    (service.mapMetadata f).follow (schedule.map (Event.mapMetadata f)) =
      (service.follow schedule).mapMetadata f := by
  induction schedule generalizing service with
  | nil => rfl
  | cons event more ih =>
    rw [List.map_cons, follow_cons, occur_mapMetadata, follow_cons]
    exact ih (service.occur event).service

theorem run_mapMetadata (actions : List Action) :
    (service.mapMetadata f).run (actions.map (Action.mapMetadata f)) =
      (service.run actions).mapMetadata f := by
  induction actions generalizing service with
  | nil => rfl
  | cons action more ih =>
    rw [List.map_cons, run_cons, step_mapMetadata, run_cons]
    exact ih (service.step action).service

/-- What is seen after the replacement is what one sees who replaces everything before looking. -/
theorem observed_mapMetadata {α : Type} (look : Service → Event → List α) (schedule : List Event) :
    observed look (service.mapMetadata f) (schedule.map (Event.mapMetadata f)) =
      observed (fun service event => look (service.mapMetadata f) (event.mapMetadata f)) service
        schedule := by
  induction schedule generalizing service with
  | nil => rfl
  | cons event more ih =>
    rw [List.map_cons, observed, occur_mapMetadata, observed]
    exact congrArg (_ ++ ·) (ih (service.occur event).service)

theorem observedIn_mapMetadata {α : Type} (look : Service → Event → List α)
    (actions : List Action) :
    observedIn look (service.mapMetadata f) (actions.map (Action.mapMetadata f)) =
      observedIn (fun service event => look (service.mapMetadata f) (event.mapMetadata f)) service
        actions := by
  induction actions generalizing service with
  | nil => rfl
  | cons action more ih =>
    rw [List.map_cons, observedIn, step_mapMetadata, observedIn]
    exact congrArg (_ ++ ·) (ih (service.step action).service)

/-- What is seen of every event as an image is seen so all along. -/
theorem observed_map_mapMetadata {α : Type} {look : Service → Event → List α} {g : α → α}
    (same : ∀ service event, look (service.mapMetadata f) (event.mapMetadata f) =
      (look service event).map g) (schedule : List Event) :
    observed look (service.mapMetadata f) (schedule.map (Event.mapMetadata f)) =
      (observed look service schedule).map g := by
  rw [observed_mapMetadata]
  simp only [same]
  induction schedule generalizing service with
  | nil => rfl
  | cons event more ih => rw [observed, ih, observed, List.map_append]

theorem observedIn_map_mapMetadata {α : Type} {look : Service → Event → List α} {g : α → α}
    (same : ∀ service event, look (service.mapMetadata f) (event.mapMetadata f) =
      (look service event).map g) (actions : List Action) :
    observedIn look (service.mapMetadata f) (actions.map (Action.mapMetadata f)) =
      (observedIn look service actions).map g := by
  rw [observedIn_mapMetadata]
  simp only [same]
  induction actions generalizing service with
  | nil => rfl
  | cons action more ih => rw [observedIn, ih, observedIn, List.map_append]

theorem notices_mapMetadata (schedule : List Event) :
    (service.mapMetadata f).notices (schedule.map (Event.mapMetadata f)) =
      (service.notices schedule).map (Notice.mapMetadata f) := by
  induction schedule generalizing service with
  | nil => rfl
  | cons event more ih =>
    rw [List.map_cons, notices, occur_mapMetadata, notices, List.map_append]
    exact congrArg (_ ++ ·) (ih (service.occur event).service)

theorem reports_mapMetadata (actions : List Action) :
    (service.mapMetadata f).reports (actions.map (Action.mapMetadata f)) =
      (service.reports actions).map (Notice.mapMetadata f) := by
  induction actions generalizing service with
  | nil => rfl
  | cons action more ih =>
    rw [List.map_cons, reports, step_mapMetadata, reports, List.map_append]
    exact congrArg (_ ++ ·) (ih (service.step action).service)

/-- What enacts a run enacts it also with the metadata replaced: it takes the same moves of the same
workers at the same times. -/
theorem Enacts.mapMetadata {service : Service} {actions : List Action} {schedule : List Event}
    (enacts : service.Enacts actions schedule) :
    (service.mapMetadata f).Enacts (actions.map (Action.mapMetadata f))
      (schedule.map (Event.mapMetadata f)) where
  wakeful duration there := by
    obtain ⟨event, listed, same⟩ := List.mem_map.1 there
    cases event with
    | action action =>
      cases action <;> cases same
      exact enacts.wakeful duration listed
    | _ => cases same
  acts := by
    have acts (event : Event) : (event.mapMetadata f).action? =
        event.action?.map (Action.mapMetadata f) := by
      cases event <;> rfl
    have awake : (fun action : Action => ! (action.mapMetadata f).isSleep) =
        fun action => ! action.isSleep := by
      simp only [Action.isSleep_mapMetadata]
    rw [List.filterMap_map, List.filter_map]
    simp only [Function.comp_def, acts, awake]
    rw [← enacts.acts, List.map_filterMap]
  follow := by rw [follow_mapMetadata, enacts.follow, run_mapMetadata]
  notices := by rw [notices_mapMetadata, enacts.notices, reports_mapMetadata]
  observed := by
    intro α look sees
    have sees_image : SeesActions fun service event =>
        look (service.mapMetadata f) (event.mapMetadata f) :=
      ⟨fun _ _ => sees.move _ _, fun _ _ => sees.tick _ _, fun _ _ => sees.sleep _ _⟩
    rw [observed_mapMetadata, enacts.observed sees_image, observedIn_mapMetadata]

end Service

/-! ### What can be told of two services -/

/-- The two stores own the same, look up the same and wait for the same. Only the metadata that the
second gives for a container is the image of what the first gives. -/
structure Store.IsImage (store image : Store) : Prop where
  sizes : image.sizes = store.sizes
  lookup (endpoint : Endpoint) : image.lookup endpoint = store.lookup endpoint
  pending : image.pending = store.pending
  holds_iff (deployment : DeploymentId) (id : ContainerId) :
    image.index.HoldsContainer deployment id ↔ store.index.HoldsContainer deployment id
  owned : image.index.owned = store.index.owned
  metadata (id : ContainerId) : image.metadata? id = (store.metadata? id).map f

/-- The two deliveries are at the same point: it is as late, the same workers can make the same
moves now, and the records on their way are given up at the same times. Wherever the first has a
record, the second has its image. -/
structure Delivery.IsImage (delivery image : Delivery) : Prop where
  queue : image.queue = delivery.queue.map (Job.mapMetadata f)
  worker (i : Nat) : image.workers[i]? = delivery.workers[i]?.map (Worker.mapMetadata f)
  channel (name : ChannelName) :
    image.channels[name]? = delivery.channels[name]?.map (Channel.mapMetadata f)
  now : image.now = delivery.now
  phase : image.phase = delivery.phase
  deadlines : image.deadlines = delivery.deadlines
  move (i : Nat) : image.move? i = (delivery.move? i).map (Move.mapMetadata f)
  next (round : Round) : image.nextMove? round =
    (delivery.nextMove? round).map (Prod.map id (Prod.map (Move.mapMetadata f) id))
  completed : image.completed? = delivery.completed?

namespace Service

/-- The second service differs from the first by nothing but metadata, which it has through `f`. -/
structure IsImage (service image : Service) : Prop where
  store : Option.Rel (Store.IsImage f) service.store image.store
  delivery : service.delivery.IsImage f image.delivery
  registered : image.registered = service.registered
  counters : image.counters = service.counters
  published : image.families? = service.families?

theorem isImage_mapMetadata (service : Service) : service.IsImage f (service.mapMetadata f) where
  store := by
    have image (store : Store) : store.IsImage f (store.mapMetadata f) :=
      { sizes := store.sizes_mapMetadata f
        lookup := store.lookup_mapMetadata f
        pending := rfl
        holds_iff := fun deployment id => store.index.holdsContainer_mapMetadata f deployment id
        owned := rfl
        metadata := store.metadata?_mapMetadata f }
    cases present : service.store with
    | none => simp [mapMetadata, present]
    | some store => simpa [mapMetadata, present] using image store
  delivery :=
    { queue := rfl
      worker := service.delivery.getElem?_workers_mapMetadata f
      channel := service.delivery.getElem?_channels_mapMetadata f
      now := rfl
      phase := rfl
      deadlines := service.delivery.deadlines_mapMetadata f
      move := service.delivery.move?_mapMetadata f
      next := service.delivery.nextMove?_mapMetadata f
      completed := service.delivery.completed?_mapMetadata f }
  registered := rfl
  counters := rfl
  published := service.families?_mapMetadata f

/-- What an event is answered with. -/
def answers (service : Service) (event : Event) : List Answer :=
  [(service.occur event).answer]

/-- The moves that an event makes, with the time of each and the worker that makes it. -/
def strokes (service : Service) : Event → List (Nat × Nat × Move)
  | .move worker =>
    (service.delivery.move? worker).toList.map fun move => (service.delivery.now, worker, move)
  | _ => []

theorem answers_mapMetadata (service : Service) (event : Event) :
    answers (service.mapMetadata f) (event.mapMetadata f) =
      (answers service event).map (Answer.mapMetadata f) := by
  rw [answers, occur_mapMetadata]
  rfl

theorem strokes_mapMetadata (service : Service) (event : Event) :
    strokes (service.mapMetadata f) (event.mapMetadata f) =
      (strokes service event).map (Prod.map id (Prod.map id (Move.mapMetadata f))) := by
  cases event with
  | move worker =>
    simp only [strokes, Event.mapMetadata, delivery_mapMetadata, Delivery.move?_mapMetadata]
    cases service.delivery.move? worker <;> rfl
  | _ => rfl

/-- Metadata is never read. For any function on metadata, a service whose batches are given the
images in place of the metadata itself differs from the service as it is by nothing but the
function, whatever is done and whatever happens by itself. It has the same sizes, lookups, requests,
owners and counters, and its workers make the same moves at the same times. Its answers, its
notices, and the records that it holds are the images of those that there are otherwise. -/
theorem unread_follow (limits : Limits) (instrumented : Bool) :
    (∀ reports : List Association, (Batch.ofReports reports).mapMetadata f =
      Batch.ofReports (reports.map (Association.mapMetadata f))) ∧
    (∀ schedule : List Event,
      let service := fresh limits instrumented
      let given := schedule.map (Event.mapMetadata f)
      (service.follow schedule).IsImage f (service.follow given) ∧
        observed answers service given =
          (observed answers service schedule).map (Answer.mapMetadata f) ∧
        observed strokes service given =
          (observed strokes service schedule).map
            (Prod.map id (Prod.map id (Move.mapMetadata f))) ∧
        service.notices given = (service.notices schedule).map (Notice.mapMetadata f)) ∧
    ∀ actions : List Action,
      let service := fresh limits instrumented
      let given := actions.map (Action.mapMetadata f)
      (service.run actions).IsImage f (service.run given) ∧
        observedIn answers service given =
          (observedIn answers service actions).map (Answer.mapMetadata f) ∧
        service.reports given = (service.reports actions).map (Notice.mapMetadata f) ∧
        ∃ schedule : List Event, service.Enacts actions schedule ∧
          service.Enacts given (schedule.map (Event.mapMetadata f)) := by
  have start : (fresh limits instrumented).mapMetadata f = fresh limits instrumented :=
    mapMetadata_fresh f limits instrumented
  refine ⟨Batch.mapMetadata_ofReports f, fun schedule => ?_, fun actions => ?_⟩
  · intro service given
    refine ⟨?_, ?_, ?_, ?_⟩
    · have followed := follow_mapMetadata f service schedule
      rw [start] at followed
      exact followed ▸ isImage_mapMetadata f _
    · have answered := observed_map_mapMetadata f service (answers_mapMetadata f) schedule
      rwa [start] at answered
    · have moved := observed_map_mapMetadata f service (strokes_mapMetadata f) schedule
      rwa [start] at moved
    · have noticed := notices_mapMetadata f service schedule
      rwa [start] at noticed
  · intro service given
    refine ⟨?_, ?_, ?_, ?_⟩
    · have done := run_mapMetadata f service actions
      rw [start] at done
      exact done ▸ isImage_mapMetadata f _
    · have answered := observedIn_map_mapMetadata f service (answers_mapMetadata f) actions
      rwa [start] at answered
    · have reported := reports_mapMetadata f service actions
      rwa [start] at reported
    · obtain ⟨schedule, enacts⟩ := exists_enacts service actions
      have given_too := enacts.mapMetadata f
      rw [start] at given_too
      exact ⟨schedule, enacts, given_too⟩

end Service

end Attribution
