import Attribution.Proofs.Store.Independence
import Attribution.Proofs.Store.Lookup
import Mathlib.Data.Set.Card

/-!
# What the sizes count

The sizes are the numbers of entries of the maps. Since the maps keep nothing empty, an entry is
there only because of something live, and whatever is live has its one entry: so each size is the
number of things that the history leaves live. Nothing that was purged, taken over or reported in
vain is counted, and once every deployment is replaced by nothing there is nothing left to count.
-/

namespace Attribution

/-- A sorted list is as long as there are things with the property that it lists. -/
theorem Lists.encard_eq {α : Type} [Ord α] [Std.TransOrd α] [DecidableEq α] {property : α → Prop}
    {values : List α} (h : Lists property values) : {x | property x}.encard = values.length := by
  have listed : {x | property x} = ↑values.toFinset := by
    ext x
    simp [h.mem_iff]
  rw [listed, Set.encard_coe_eq_coe_finsetCard, List.toFinset_card_of_nodup h.nodup]

theorem Lists.encard_eq_size {α β : Type} [Ord α] [Std.TransOrd α] [DecidableEq α]
    {property : α → Prop} {map : Std.ExtTreeMap α β} (h : Lists property map.keys) :
    {x | property x}.encard = map.size := by
  rw [h.encard_eq, Std.ExtTreeMap.length_keys]

/-! ### The entries of an index -/

namespace Owned

theorem isEmpty_eq_false_iff {owned : Owned} :
    owned.isEmpty = false ↔
      (∃ address, address ∈ owned.addresses) ∨ (∃ endpoint, endpoint ∈ owned.endpoints) ∨
        ∃ id, id ∈ owned.containers := by
  rw [isEmpty, Bool.and_eq_false_iff, Bool.and_eq_false_iff, or_assoc,
    isEmpty_eq_false_iff_exists_mem, isEmpty_eq_false_iff_exists_mem,
    isEmpty_eq_false_iff_exists_mem]

theorem isSome_kept?_iff {owned : Owned} : owned.kept?.isSome ↔ owned.isEmpty = false := by
  cases nothing : owned.isEmpty <;> simp [kept?, nothing]

end Owned

namespace Index

variable {index : Index}

/-- Of a map that keeps no key without owners the keys are those with an owner. -/
theorem mem_iff_exists_owner {K O : Type} [Ord K] [Std.TransOrd K] [Std.LawfulEqOrd K]
    [Membership DeploymentId O] [Owners O] {map : Std.ExtTreeMap K O} {key : K}
    (nonempty : ∀ owners, map[key]? = some owners → Owners.isEmpty owners = false) :
    key ∈ map ↔ ∃ (deployment : DeploymentId) (owners : O),
      map[key]? = some owners ∧ deployment ∈ owners := by
  rw [Std.ExtTreeMap.mem_iff_isSome_getElem?, Option.isSome_iff_exists]
  constructor
  · rintro ⟨owners, there⟩
    obtain ⟨deployment, among⟩ := (Owners.isEmpty_eq_false_iff owners).1 (nonempty owners there)
    exact ⟨deployment, owners, there, among⟩
  · rintro ⟨deployment, owners, there, -⟩
    exact ⟨owners, there⟩

theorem lists_byAddress (h : index.Consistent) :
    Lists (fun address => ∃ deployment, index.OwnsAddress deployment address)
      index.byAddress.keys where
  ascending := Std.ExtTreeMap.ordered_keys
  mem_iff address := by
    rw [Std.ExtTreeMap.mem_keys]
    exact mem_iff_exists_owner (h.owners_nonempty address)

theorem lists_byEndpoint (h : index.Consistent) :
    Lists (fun endpoint => ∃ deployment, index.Exposes deployment endpoint)
      index.byEndpoint.keys where
  ascending := Std.ExtTreeMap.ordered_keys
  mem_iff endpoint := by
    rw [Std.ExtTreeMap.mem_keys]
    exact mem_iff_exists_owner (h.exposers_nonempty endpoint)

theorem lists_byContainer (index : Index) :
    Lists (fun id => ∃ metadata, index.metadata? id = some metadata) index.byContainer.keys where
  ascending := Std.ExtTreeMap.ordered_keys
  mem_iff id := by
    rw [Std.ExtTreeMap.mem_keys, Std.ExtTreeMap.mem_iff_isSome_getElem?,
      ← Option.isSome_iff_exists, metadata?, Option.isSome_map]

/-- Whoever has an entry of its own owns something. -/
theorem lists_owned (h : index.Consistent) :
    Lists (fun deployment => (∃ address, index.OwnsAddress deployment address) ∨
        (∃ endpoint, index.Exposes deployment endpoint) ∨
          ∃ id, index.HoldsContainer deployment id)
      index.owned.keys where
  ascending := Std.ExtTreeMap.ordered_keys
  mem_iff deployment := by
    rw [Std.ExtTreeMap.mem_keys, Std.ExtTreeMap.mem_iff_isSome_getElem?, h.getElem?_owned,
      Owned.isSome_kept?_iff, Owned.isEmpty_eq_false_iff]
    simp only [h.address_iff, h.endpoint_iff, h.container_iff]

end Index

/-! ### What a history leaves live -/

/-- The deployment owns the container: the last report of the container was made for it, and it was
not replaced since. -/
def OwnsContainer (history : History) (deployment : DeploymentId) (id : ContainerId) : Prop :=
  ∃ metadata after, LastReport history id deployment metadata after ∧
    ¬ ∃ later ∈ after, later.Replaces deployment

/-- Some application names the deployment. -/
def Named (history : History) (deployment : DeploymentId) : Prop :=
  ∃ application ∈ history, deployment ∈ application.updates.map Update.deployment

theorem Live.named {history : History} {deployment : DeploymentId} {association : Association}
    (live : Live history deployment association) : Named history deployment := by
  obtain ⟨before, application, after, rfl, reports, -⟩ := live
  exact ⟨application, List.mem_append_right before List.mem_cons_self,
    Application.named_of_reports reports⟩

theorem OwnsContainer.named {history : History} {deployment : DeploymentId} {id : ContainerId}
    (owns : OwnsContainer history deployment id) : Named history deployment := by
  obtain ⟨metadata, after, ⟨before, mode, earlier, update, later, rfl, rfl, -⟩, -⟩ := owns
  exact ⟨⟨mode, earlier ++ update :: later⟩, List.mem_append_right before List.mem_cons_self,
    List.mem_map_of_mem (List.mem_append_right earlier List.mem_cons_self)⟩

namespace Index

theorem holdsContainer_replay_empty {history : History} {deployment : DeploymentId}
    {id : ContainerId} :
    (empty.replay history).HoldsContainer deployment id ↔ OwnsContainer history deployment id := by
  rw [HoldsContainer]
  constructor
  · rintro ⟨holding, there, rfl⟩
    rcases unreported_or_exists_lastReport history id with
      unreported | ⟨deployment, metadata, after, last⟩
    · rw [getElem?_byContainer_replay_of_unreported consistent_empty unreported] at there
      simp [empty] at there
    · rw [getElem?_byContainer_replay_of_lastReport consistent_empty last] at there
      split at there
      · cases there
      · rename_i unreplaced
        cases there
        exact ⟨metadata, after, last, unreplaced⟩
  · rintro ⟨metadata, after, last, unreplaced⟩
    refine ⟨⟨deployment, metadata⟩, ?_, rfl⟩
    rw [getElem?_byContainer_replay_of_lastReport consistent_empty last, if_neg unreplaced]

/-- The index attributes something only to deployments that were named. -/
theorem named_of_attributes {history : History} {deployment : DeploymentId}
    {association : Association} (h : (empty.replay history).Attributes deployment association) :
    Named history deployment := by
  by_cases shared : association.IsShared
  · exact ((attributes_replay_empty shared history).1 h).named
  · cases association with
    | container id metadata =>
      have holds : (empty.replay history).HoldsContainer deployment id := ⟨_, h, rfl⟩
      exact (holdsContainer_replay_empty.1 holds).named
    | _ => exact absurd trivial shared

end Index

/-! ### Updates that report nothing -/

namespace Update

/-- The update has no batch, or an empty one. -/
def IsSilent (update : Update) : Prop :=
  ∀ batch, update.batch = some batch → batch.isEmpty = true

theorem IsSilent.not_reportsContainer {update : Update} (silent : update.IsSilent)
    (id : ContainerId) : ¬ update.ReportsContainer id := by
  rintro ⟨batch, given, reported⟩
  have nothing := silent batch given
  rw [Batch.isEmpty, Bool.and_eq_true, Std.ExtTreeMap.isEmpty_iff] at nothing
  rw [nothing.2] at reported
  exact Std.ExtTreeMap.not_mem_empty reported

end Update

namespace Index

theorem mergeUpdate_of_isSilent {update : Update} (silent : update.IsSilent) (index : Index) :
    index.mergeUpdate update = index := by
  rw [mergeUpdate]
  cases given : update.batch with
  | none => rfl
  | some batch => exact merge_of_isEmpty (silent batch given) index update.deployment

theorem mergeAll_of_isSilent {updates : List Update} (silent : ∀ update ∈ updates, update.IsSilent)
    (index : Index) : index.mergeAll updates = index := by
  induction updates with
  | nil => rfl
  | cons update more ih =>
    obtain ⟨first, later⟩ := List.forall_mem_cons.1 silent
    change (index.mergeUpdate update).mergeAll more = index
    rw [mergeUpdate_of_isSilent first, ih later]

/-- Once everybody is replaced by nothing the index is that of nothing. -/
theorem applied_replace_eq_empty {history : History} {updates : List Update}
    (silent : ∀ update ∈ updates, update.IsSilent)
    (everybody : ∀ deployment, Named history deployment →
      deployment ∈ updates.map Update.deployment) :
    (empty.replay history).applied ⟨.replace, updates⟩ = empty := by
  have consistent := consistent_empty.replay history
  change ((empty.replay history).purgeAll (updates.map Update.deployment)).1.mergeAll updates = _
  rw [mergeAll_of_isSilent silent]
  refine (consistent.purgeAll _).eq_of_attributes_iff consistent_empty ?_
  intro deployment association
  rw [attributes_purgeAll consistent]
  constructor
  · rintro ⟨attributed, unnamed⟩
    exact absurd (everybody deployment (named_of_attributes attributed)) unnamed
  · intro attributed
    obtain ⟨application, listed, -⟩ :=
      named_of_attributes (show (empty.replay []).Attributes deployment association from attributed)
    cases listed

end Index

namespace Store

theorem pending_apply_of_isSilent {updates : List Update}
    (silent : ∀ update ∈ updates, update.IsSilent) (store : Store) (mode : Mode) :
    (store.apply mode updates).store.pending = store.pending := by
  apply Std.ExtTreeSet.ext_mem
  intro id
  rw [mem_pending_apply, and_iff_left]
  rintro ⟨update, there, reports⟩
  exact (silent update there).not_reportsContainer id reports

theorem lists_pending_afterAll (actions : List Action) :
    Lists (Awaited actions) (empty.afterAll actions).pending.toList where
  ascending := Std.ExtTreeSet.ordered_toList
  mem_iff id := by rw [Std.ExtTreeSet.mem_toList, mem_pending_afterAll_empty]

end Store

/-! ### Runs -/

/-- The sizes are those of what the actions leave: of the addresses and endpoints with a live owner,
the containers that lookups are answered for, the deployments that own any of these, and the
containers that somebody waits for. -/
structure ExactSizes (actions : List Action) (store : Store) (sizes : Sizes) : Prop where
  addresses : {address | ∃ deployment,
    Live (applications actions) deployment (.address address)}.encard = sizes.addresses
  endpoints : {endpoint | ∃ deployment target,
    Live (applications actions) deployment (.exposure ⟨endpoint, target⟩)}.encard = sizes.endpoints
  containers : {id | ∃ metadata, store.metadata? id = some metadata}.encard = sizes.containers
  deployments : {deployment |
    (∃ address, Live (applications actions) deployment (.address address)) ∨
      (∃ endpoint target, Live (applications actions) deployment (.exposure ⟨endpoint, target⟩)) ∨
        ∃ id, OwnsContainer (applications actions) deployment id}.encard = sizes.deployments
  pending : {id | Awaited actions id}.encard = sizes.pending

theorem Store.exactSizes_afterAll (actions : List Action) :
    ExactSizes actions (Store.empty.afterAll actions) (Store.empty.afterAll actions).sizes := by
  have consistent := Service.consistent_index_afterAll actions
  have replayed : (Store.empty.afterAll actions).index =
      Index.empty.replay (applications actions) := Store.index_afterAll .empty actions
  refine ⟨?_, ?_, (Index.lists_byContainer _).encard_eq_size, ?_, ?_⟩
  · refine ((Index.lists_byAddress consistent).congr fun address => ?_).encard_eq_size
    simp only [replayed, Index.ownsAddress_replay_empty]
  · refine ((Index.lists_byEndpoint consistent).congr fun endpoint => ?_).encard_eq_size
    simp only [replayed, Index.exposes_replay_empty]
  · refine ((Index.lists_owned consistent).congr fun deployment => ?_).encard_eq_size
    simp only [replayed, Index.ownsAddress_replay_empty, Index.exposes_replay_empty,
      Index.holdsContainer_replay_empty]
  · rw [(Store.lists_pending_afterAll actions).encard_eq, Std.ExtTreeSet.length_toList]
    rfl

/-- When everybody is replaced by nothing, nothing is left but the open requests. -/
theorem Store.sizes_apply_replace {actions : List Action} {updates : List Update}
    (silent : ∀ update ∈ updates, update.IsSilent)
    (everybody : ∀ deployment, Named (applications actions) deployment →
      deployment ∈ updates.map Update.deployment) :
    ((Store.empty.afterAll actions).apply .replace updates).store.sizes =
      ⟨0, 0, 0, 0, (Store.empty.afterAll actions).sizes.pending⟩ := by
  have emptied : ((Store.empty.afterAll actions).apply .replace updates).store.index = .empty := by
    change (Store.empty.afterAll actions).index.applied ⟨.replace, updates⟩ = .empty
    rw [Store.index_afterAll]
    exact Index.applied_replace_eq_empty silent everybody
  rw [sizes, sizes, emptied, pending_apply_of_isSilent silent]
  rfl

namespace Service

/-- In every run the sizes count exactly what is live after the updates applied so far; and an
update that replaces everybody who was ever named by nothing leaves nothing to count but the open
requests. -/
theorem sizes_run (limits : Limits) (instrumented : Bool) {actions : List Action}
    (kept : .dropStore ∉ actions) :
    ∃ store sizes, ((fresh limits instrumented).run actions).store = some store ∧
      ((fresh limits instrumented).run actions).sizes? = some sizes ∧
      ExactSizes actions store sizes ∧
      ∀ updates : List Update, (∀ update ∈ updates, update.IsSilent) →
        (∀ deployment, Named (applications actions) deployment →
          deployment ∈ updates.map Update.deployment) →
        ((fresh limits instrumented).run (actions ++ [.apply .replace updates])).sizes? =
          some ⟨0, 0, 0, 0, sizes.pending⟩ := by
  have present : ((fresh limits instrumented).run actions).store =
      some (Store.empty.afterAll actions) := store_run rfl kept
  refine ⟨Store.empty.afterAll actions, _, present, congrArg (Option.map Store.sizes) present,
    Store.exactSizes_afterAll actions, ?_⟩
  intro updates silent everybody
  have replaced : ((fresh limits instrumented).run (actions ++ [.apply .replace updates])).store =
      some ((Store.empty.afterAll actions).apply .replace updates).store := by
    rw [run_append]
    exact store_run present (by simp)
  rw [sizes?, replaced, Option.map_some, Store.sizes_apply_replace silent everybody]

/-- Two deployments share an address, a container is taken over, and somebody waits for another one.
The deployment that lost its container is purged; at the end nobody owns anything. -/
theorem sizes_run_shared_address :
    let address : Association := .address (.v4 (.of 10 0 0 5))
    let exposure : Association := .exposure ⟨.tcp (.v4 (.of 10 0 0 5)) 80, ⟨8080, none⟩⟩
    let container : Association := .container ⟨"x"⟩ ⟨⟨"a"⟩, "pod", "app", ⟨"x"⟩⟩
    let actions : List Action :=
      [.want ⟨"y"⟩,
        .apply .incremental [⟨⟨"a"⟩, some (.ofReports [address, container])⟩,
          ⟨⟨"b"⟩, some (.ofReports [address, exposure])⟩],
        .apply .incremental [⟨⟨"b"⟩, some (.ofReports [container])⟩],
        .apply .replace [⟨⟨"a"⟩, none⟩]]
    let updates : List Update := [⟨⟨"a"⟩, some .empty⟩, ⟨⟨"b"⟩, none⟩]
    Action.dropStore ∉ actions ∧ (∀ update ∈ updates, update.IsSilent) ∧
      (∀ deployment, Named (applications actions) deployment →
        deployment ∈ updates.map Update.deployment) ∧
      ∃ store, ((fresh {} false).run actions).store = some store ∧
        ExactSizes actions store ⟨1, 1, 1, 1, 1⟩ ∧
        ((fresh {} false).run (actions ++ [.apply .replace updates])).sizes? =
          some ⟨0, 0, 0, 0, 1⟩ := by
  intro address exposure container actions updates
  have counted : ((fresh {} false).run actions).sizes? = some ⟨1, 1, 1, 1, 1⟩ := by
    decide +kernel +revert
  have covered : ∀ application ∈ applications actions,
      ∀ deployment ∈ application.updates.map Update.deployment,
        deployment ∈ updates.map Update.deployment := by
    decide +kernel +revert
  have kept : Action.dropStore ∉ actions := by simp [actions]
  have silent : ∀ update ∈ updates, update.IsSilent := by
    simp [updates, Update.IsSilent]
  have everybody : ∀ deployment, Named (applications actions) deployment →
      deployment ∈ updates.map Update.deployment := by
    rintro deployment ⟨application, listed, named⟩
    exact covered application listed deployment named
  obtain ⟨store, sizes, present, reported, exact_sizes, emptied⟩ := sizes_run {} false kept
  obtain rfl : sizes = ⟨1, 1, 1, 1, 1⟩ := Option.some.inj (reported.symm.trans counted)
  exact ⟨kept, silent, everybody, store, present, exact_sizes, emptied updates silent everybody⟩

end Service

end Attribution
