import Attribution.Proofs.Store.Live

/-!
# Endpoint lookups and the history

The answer for an endpoint depends on the history of updates alone, through what is live: its
exposures by some deployment, or, where there is none, the owners of its address. Every list in an
answer is the strictly ascending list of the things in question, so that there is one answer only.
-/

namespace Attribution

/-- The values are those with the property, each once and in ascending order. -/
structure Lists {α : Type} [Ord α] (property : α → Prop) (values : List α) : Prop where
  ascending : values.Pairwise fun x y => compare x y = .lt
  mem_iff (x : α) : x ∈ values ↔ property x

theorem lists_ascending {α : Type} [Ord α] [Std.TransOrd α] [Std.LawfulEqOrd α]
    (values : List α) : Lists (· ∈ values) (Attribution.ascending values) where
  ascending := pairwise_ascending values
  mem_iff _ := mem_ascending

theorem Lists.congr {α : Type} [Ord α] {property other : α → Prop} {values : List α}
    (h : Lists property values) (same : ∀ x, property x ↔ other x) : Lists other values where
  ascending := h.ascending
  mem_iff x := (h.mem_iff x).trans (same x)

theorem Lists.nodup {α : Type} [Ord α] [Std.TransOrd α] {property : α → Prop} {values : List α}
    (h : Lists property values) : values.Nodup := by
  refine h.ascending.imp ?_
  rintro x _ before rfl
  rw [Std.compare_self] at before
  cases before

/-- The deployment that a candidate names. -/
def Candidate.deployment (candidate : Candidate) : DeploymentId :=
  candidate.entity.deploymentId

namespace Index

variable {index : Index} {endpoint : Endpoint}

theorem exposes_iff (h : index.Consistent) {deployment : DeploymentId} :
    index.Exposes deployment endpoint ↔
      ∃ target, index.ExposesTarget deployment endpoint target := by
  constructor
  · rintro ⟨owners, there, among⟩
    obtain ⟨targets, listed⟩ :=
      Option.isSome_iff_exists.1 (Std.ExtTreeMap.mem_iff_isSome_getElem?.1 among)
    have nonempty := h.targets_nonempty endpoint owners deployment targets there listed
    obtain ⟨target, behind⟩ := isEmpty_eq_false_iff_exists_mem.1 nonempty
    exact ⟨target, owners, targets, there, listed, behind⟩
  · rintro ⟨target, exposed⟩
    exact exposed.exposes

/-! ### Exact answers -/

theorem map_deployment_exposers (index : Index) (endpoint : Endpoint) :
    (index.exposers endpoint).map Candidate.deployment =
      (index.byEndpoint[endpoint]?.getD ∅).keys := by
  rw [exposers, List.map_map, ← Std.ExtTreeMap.map_fst_toList_eq_keys]
  rfl

theorem lists_exposers (index : Index) (endpoint : Endpoint) :
    Lists (index.Exposes · endpoint) ((index.exposers endpoint).map Candidate.deployment) where
  ascending := by
    rw [map_deployment_exposers]
    exact Std.ExtTreeMap.ordered_keys
  mem_iff deployment := by
    rw [map_deployment_exposers, Std.ExtTreeMap.mem_keys, Exposes]
    cases index.byEndpoint[endpoint]? <;> simp

theorem mem_exposers {candidate : Candidate} :
    candidate ∈ index.exposers endpoint ↔
      ∃ owners deployment targets, index.byEndpoint[endpoint]? = some owners ∧
        owners[deployment]? = some targets ∧ candidate = .exposing deployment targets := by
  rw [exposers, List.mem_map]
  constructor
  · rintro ⟨⟨deployment, targets⟩, listed, rfl⟩
    rw [Std.ExtTreeMap.mem_toList_iff_getElem?_eq_some] at listed
    cases there : index.byEndpoint[endpoint]? with
    | none => simp [there] at listed
    | some owners => exact ⟨owners, deployment, targets, rfl, by simpa [there] using listed, rfl⟩
  · rintro ⟨owners, deployment, targets, there, listed, rfl⟩
    refine ⟨(deployment, targets), ?_, rfl⟩
    rw [there, Std.ExtTreeMap.mem_toList_iff_getElem?_eq_some]
    exact listed

/-- The targets of a candidate's deployment are all that the candidate is made from. -/
theorem exposesTarget_iff_mem {owners : EndpointOwners} {deployment : DeploymentId}
    {targets : Std.ExtTreeSet Target} (there : index.byEndpoint[endpoint]? = some owners)
    (listed : owners[deployment]? = some targets) (target : Target) :
    index.ExposesTarget deployment endpoint target ↔ target ∈ targets := by
  constructor
  · rintro ⟨owners', targets', there', listed', behind⟩
    rw [there] at there'
    cases there'
    rw [listed] at listed'
    cases listed'
    exact behind
  · exact fun behind => ⟨owners, targets, there, listed, behind⟩

theorem lists_ports_of_mem_exposers {candidate : Candidate}
    (h : candidate ∈ index.exposers endpoint) :
    Lists (fun port => ∃ target, index.ExposesTarget candidate.deployment endpoint target ∧
      target.port = port) candidate.ports := by
  obtain ⟨owners, deployment, targets, there, listed, rfl⟩ := mem_exposers.1 h
  refine (lists_ascending (targets.toList.map Target.port)).congr fun port => ?_
  simp only [List.mem_map, Std.ExtTreeSet.mem_toList]
  refine exists_congr fun target => and_congr ?_ Iff.rfl
  exact (exposesTarget_iff_mem there listed target).symm

theorem lists_names_of_mem_exposers {candidate : Candidate}
    (h : candidate ∈ index.exposers endpoint) :
    Lists (fun name => ∃ target, index.ExposesTarget candidate.deployment endpoint target ∧
      target.name = some name ∧ name ≠ "") candidate.names := by
  obtain ⟨owners, deployment, targets, there, listed, rfl⟩ := mem_exposers.1 h
  refine (lists_ascending (targets.toList.filterMap Target.givenName?)).congr fun name => ?_
  simp only [List.mem_filterMap, Std.ExtTreeSet.mem_toList]
  refine exists_congr fun target => and_congr (exposesTarget_iff_mem there listed target).symm ?_
  simp [Target.givenName?, Option.filter_eq_some_iff]

/-! ### Answers by address -/

theorem map_deployment_addressOwners (index : Index) (endpoint : Endpoint) :
    (index.addressOwners endpoint).map Candidate.deployment =
      (index.byAddress[endpoint.address]?.getD ∅).toList := by
  rw [addressOwners, List.map_map]
  exact List.map_id _

theorem lists_addressOwners (index : Index) (endpoint : Endpoint) :
    Lists (index.OwnsAddress · endpoint.address)
      ((index.addressOwners endpoint).map Candidate.deployment) where
  ascending := by
    rw [map_deployment_addressOwners]
    exact Std.ExtTreeSet.ordered_toList
  mem_iff deployment := by
    rw [map_deployment_addressOwners, Std.ExtTreeSet.mem_toList, OwnsAddress]
    cases index.byAddress[endpoint.address]? <;> simp

theorem eq_atAddress_of_mem_addressOwners {candidate : Candidate}
    (h : candidate ∈ index.addressOwners endpoint) :
    candidate = .atAddress endpoint.port candidate.deployment := by
  obtain ⟨deployment, -, rfl⟩ := List.mem_map.1 h
  rfl

/-! ### The switch between the two -/

theorem lookup_of_exposed {deployment : DeploymentId} (h : index.Exposes deployment endpoint) :
    index.lookup endpoint = index.exposers endpoint := by
  have listed := ((lists_exposers index endpoint).mem_iff deployment).2 h
  rw [lookup, if_neg]
  intro empty
  rw [List.isEmpty_iff.1 empty] at listed
  cases listed

theorem lookup_of_unexposed (h : ∀ deployment, ¬ index.Exposes deployment endpoint) :
    index.lookup endpoint = index.addressOwners endpoint := by
  rw [lookup, if_pos]
  rw [List.isEmpty_iff, ← List.map_eq_nil_iff (f := Candidate.deployment),
    List.eq_nil_iff_forall_not_mem]
  intro deployment listed
  exact h deployment (((lists_exposers index endpoint).mem_iff deployment).1 listed)

end Index

/-- What an endpoint with live exposures is answered with: the deployments that expose it, with the
ports of all live targets and the names of these ports that are given and not empty. -/
structure ExactAnswer (history : History) (endpoint : Endpoint) (candidates : List Candidate) :
    Prop where
  deployments :
    Lists (fun deployment => ∃ target, Live history deployment (.exposure ⟨endpoint, target⟩))
      (candidates.map Candidate.deployment)
  ports (candidate : Candidate) : candidate ∈ candidates →
    Lists (fun port => ∃ target,
      Live history candidate.deployment (.exposure ⟨endpoint, target⟩) ∧ target.port = port)
      candidate.ports
  names (candidate : Candidate) : candidate ∈ candidates →
    Lists (fun name => ∃ target,
      Live history candidate.deployment (.exposure ⟨endpoint, target⟩) ∧
        target.name = some name ∧ name ≠ "")
      candidate.names

/-- What an endpoint without live exposures is answered with: the owners of its address. -/
structure AddressAnswer (history : History) (endpoint : Endpoint) (candidates : List Candidate) :
    Prop where
  deployments :
    Lists (fun deployment => Live history deployment (.address endpoint.address))
      (candidates.map Candidate.deployment)
  ports (candidate : Candidate) : candidate ∈ candidates → candidate.ports = [endpoint.port]
  names (candidate : Candidate) : candidate ∈ candidates → candidate.names = []

namespace Index

theorem ownsAddress_replay_empty (history : History) (deployment : DeploymentId)
    (address : Address) :
    (empty.replay history).OwnsAddress deployment address ↔
      Live history deployment (.address address) := by
  have shared : (Association.address address).IsShared := trivial
  exact attributes_replay_empty shared history

theorem exposesTarget_replay_empty (history : History) (deployment : DeploymentId)
    (endpoint : Endpoint) (target : Target) :
    (empty.replay history).ExposesTarget deployment endpoint target ↔
      Live history deployment (.exposure ⟨endpoint, target⟩) := by
  have shared : (Association.exposure ⟨endpoint, target⟩).IsShared := trivial
  exact attributes_replay_empty shared history

theorem exposes_replay_empty (history : History) (deployment : DeploymentId)
    (endpoint : Endpoint) :
    (empty.replay history).Exposes deployment endpoint ↔
      ∃ target, Live history deployment (.exposure ⟨endpoint, target⟩) := by
  rw [exposes_iff (consistent_empty.replay history)]
  exact exists_congr fun target => exposesTarget_replay_empty history deployment endpoint target

theorem exactAnswer_exposers (history : History) (endpoint : Endpoint) :
    ExactAnswer history endpoint ((empty.replay history).exposers endpoint) where
  deployments := (lists_exposers _ endpoint).congr fun deployment =>
    exposes_replay_empty history deployment endpoint
  ports candidate listed := (lists_ports_of_mem_exposers listed).congr fun _ =>
    exists_congr fun target =>
      and_congr (exposesTarget_replay_empty history candidate.deployment endpoint target) Iff.rfl
  names candidate listed := (lists_names_of_mem_exposers listed).congr fun _ =>
    exists_congr fun target =>
      and_congr (exposesTarget_replay_empty history candidate.deployment endpoint target) Iff.rfl

theorem addressAnswer_addressOwners (history : History) (endpoint : Endpoint) :
    AddressAnswer history endpoint ((empty.replay history).addressOwners endpoint) where
  deployments := (lists_addressOwners _ endpoint).congr fun deployment =>
    ownsAddress_replay_empty history deployment endpoint.address
  ports candidate listed := by
    rw [eq_atAddress_of_mem_addressOwners listed]
    rfl
  names candidate listed := by
    rw [eq_atAddress_of_mem_addressOwners listed]
    rfl

end Index

namespace Service

/-- In every run a lookup is answered from what is live after the updates applied so far: exactly,
if somebody exposes the endpoint, and otherwise by the owners of its address, of which there may
be none. -/
theorem lookup_run (limits : Limits) (instrumented : Bool) {actions : List Action}
    (kept : .dropStore ∉ actions) (endpoint : Endpoint) :
    ∃ candidates,
      (((fresh limits instrumented).run actions).step (.lookup endpoint)).answer =
        .candidates candidates ∧
      ((∃ deployment target,
          Live (applications actions) deployment (.exposure ⟨endpoint, target⟩)) →
        ExactAnswer (applications actions) endpoint candidates) ∧
      ((¬ ∃ deployment target,
          Live (applications actions) deployment (.exposure ⟨endpoint, target⟩)) →
        AddressAnswer (applications actions) endpoint candidates) := by
  have present : ((fresh limits instrumented).run actions).store =
      some (Store.empty.afterAll actions) := store_run rfl kept
  have replayed : (Store.empty.afterAll actions).index =
      Index.empty.replay (applications actions) := Store.index_afterAll .empty actions
  refine ⟨(Store.empty.afterAll actions).lookup endpoint, ?_, ?_, ?_⟩
  · simp [step, perform, withStore, present, answering]
  · rintro ⟨deployment, exposed⟩
    have exposes :=
      (Index.exposes_replay_empty (applications actions) deployment endpoint).2 exposed
    rw [Store.lookup, replayed, Index.lookup_of_exposed exposes]
    exact Index.exactAnswer_exposers (applications actions) endpoint
  · intro unexposed
    have nobody : ∀ deployment,
        ¬ (Index.empty.replay (applications actions)).Exposes deployment endpoint := by
      intro deployment exposes
      exact unexposed ⟨deployment, (Index.exposes_replay_empty _ _ _).1 exposes⟩
    rw [Store.lookup, replayed, Index.lookup_of_unexposed nobody]
    exact Index.addressAnswer_addressOwners (applications actions) endpoint

/-- Two deployments share an endpoint and the first is replaced; the second still exposes it. -/
theorem lookup_run_shared_endpoint :
    let endpoint := Endpoint.tcp (.v4 ⟨[10, 0, 0, 1], rfl⟩) 80
    let batch := Batch.ofReports
      [.exposure ⟨endpoint, ⟨8080, some "http"⟩⟩, .exposure ⟨endpoint, ⟨8081, some ""⟩⟩]
    let actions : List Action :=
      [.apply .incremental [⟨⟨"a"⟩, some batch⟩, ⟨⟨"b"⟩, some batch⟩],
        .apply .replace [⟨⟨"a"⟩, none⟩]]
    Action.dropStore ∉ actions ∧
      Live (applications actions) ⟨"b"⟩ (.exposure ⟨endpoint, ⟨8080, some "http"⟩⟩) ∧
      ∃ candidates,
        (((fresh {} false).run actions).step (.lookup endpoint)).answer = .candidates candidates ∧
        ExactAnswer (applications actions) endpoint candidates := by
  intro endpoint batch actions
  have kept : Action.dropStore ∉ actions := by simp [actions]
  have reported : .exposure ⟨endpoint, ⟨8080, some "http"⟩⟩ ∈ batch.associations := by
    simp [batch, Batch.associations, Batch.ofReports, Batch.add, Batch.addEndpoint, Batch.empty]
  have live : Live (applications actions) ⟨"b"⟩
      (.exposure ⟨endpoint, ⟨8080, some "http"⟩⟩) := by
    refine ⟨[], ⟨.incremental, [⟨⟨"a"⟩, some batch⟩, ⟨⟨"b"⟩, some batch⟩]⟩,
      [⟨.replace, [⟨⟨"a"⟩, none⟩]⟩], rfl, ?_, by simp [Application.Replaces]⟩
    exact ⟨⟨⟨"b"⟩, some batch⟩, by simp, rfl, batch, rfl, reported⟩
  obtain ⟨candidates, answered, exact_answer, -⟩ := lookup_run {} false kept endpoint
  exact ⟨kept, live, candidates, answered, exact_answer ⟨⟨"b"⟩, ⟨8080, some "http"⟩, live⟩⟩

end Service

end Attribution
