import Attribution.Proofs.Index.Extensionality
import Mathlib.Data.Finset.Card
import Mathlib.Data.List.Perm.Basic

/-!
# Changes whose order makes no difference

Of two reports on one container the later one counts, and this is the only way in which reports
depend on their order. Where no container is reported twice the index attributes after them what is
reported, and what it attributed before but for these containers. What is said here of the reports
is only which there are; so an index that is reached by the same reports in another order is the
same index, even if in one order a deployment loses all that it owns on the way and in the other it
does not. Purges depend on their order even less, and as many of them find something to purge.
-/

namespace Attribution

namespace Association

/-- The container that an association is about, if it is about one. -/
def container? : Association → Option ContainerId
  | .container id _ => some id
  | _ => none

/-- Two associations of the same container, of which an index attributes no more than one. -/
def Excludes (one other : Association) : Prop :=
  ∃ id, one.container? = some id ∧ other.container? = some id

theorem Excludes.symm {one other : Association} (h : one.Excludes other) : other.Excludes one := by
  obtain ⟨id, first, second⟩ := h
  exact ⟨id, second, first⟩

theorem not_excludes_of_isShared {one other : Association} (shared : other.IsShared) :
    ¬ one.Excludes other := by
  rintro ⟨id, -, about⟩
  cases other with
  | container => exact shared
  | _ => cases about

end Association

/-- What is reported for a deployment. -/
abbrev Report := DeploymentId × Association

/-- No container is reported twice. -/
def Exclusive (reports : List Report) : Prop :=
  reports.Pairwise fun one other => ¬ one.2.Excludes other.2

theorem Exclusive.perm {reports others : List Report} (h : Exclusive reports)
    (same : reports.Perm others) : Exclusive others :=
  same.pairwise h fun apart excludes => apart excludes.symm

namespace Index

variable {index : Index} {deployment : DeploymentId} {association : Association}

/-! ### Reports -/

/-- Adds what is reported for various deployments, in the order given. -/
def associateEach (index : Index) (reports : List Report) : Index :=
  reports.foldl (fun index report => index.associate report.1 report.2) index

theorem associateEach_map (index : Index) (deployment : DeploymentId)
    (associations : List Association) :
    index.associateEach (associations.map (deployment, ·)) =
      index.associateAll deployment associations :=
  List.foldl_map

theorem Consistent.associateEach (h : index.Consistent) (reports : List Report) :
    (index.associateEach reports).Consistent := by
  induction reports generalizing index with
  | nil => exact h
  | cons report more ih => exact ih (h.associate report.1 report.2)

/-- After a report the index attributes what is reported, and all that it attributed before, unless
it is about the same container. -/
theorem attributes_associate_iff {reported : Association} {other : DeploymentId} :
    (index.associate deployment reported).Attributes other association ↔
      (deployment, reported) = (other, association) ∨
        (index.Attributes other association ∧ ¬ reported.Excludes association) := by
  rw [Prod.mk.injEq]
  by_cases shared : association.IsShared
  · rw [attributes_associate shared, or_comm]
    simp [Association.not_excludes_of_isShared shared]
  · cases association with
    | container id metadata =>
      cases reported with
      | container another given =>
        rw [Attributes, getElem?_byContainer_associate, Attributes]
        by_cases same : another = id
        · simp [same, Association.Excludes, Association.container?]
        · simp [same, Ne.symm same, Association.Excludes, Association.container?]
      | _ => simp [Attributes, Association.Excludes, Association.container?]
    | _ => exact absurd trivial shared

theorem attributes_associateEach {reports : List Report} (exclusive : Exclusive reports) :
    (index.associateEach reports).Attributes deployment association ↔
      (deployment, association) ∈ reports ∨
        (index.Attributes deployment association ∧
          ∀ report ∈ reports, ¬ report.2.Excludes association) := by
  induction reports generalizing index with
  | nil => simp [associateEach]
  | cons report more ih =>
    obtain ⟨first, later⟩ := List.pairwise_cons.1 exclusive
    -- what the first report says stays, since nothing after it is about the same container
    have stays (same : (report.1, report.2) = (deployment, association)) :
        ∀ other ∈ more, ¬ other.2.Excludes association := by
      cases same
      exact fun other there excludes => first other there excludes.symm
    change ((index.associate report.1 report.2).associateEach more).Attributes _ _ ↔ _
    rw [ih later, attributes_associate_iff, List.mem_cons, List.forall_mem_cons]
    constructor
    · rintro (reported | ⟨now | ⟨before, apart⟩, others⟩)
      · exact .inl (.inr reported)
      · exact .inl (.inl now.symm)
      · exact .inr ⟨before, apart, others⟩
    · rintro ((now | reported) | ⟨before, apart, others⟩)
      · exact .inr ⟨.inl now.symm, stays now.symm⟩
      · exact .inl reported
      · exact .inr ⟨.inr ⟨before, apart⟩, others⟩

/-- Reports that exclude each other nowhere can come in any order. -/
theorem associateEach_perm (h : index.Consistent) {reports others : List Report}
    (exclusive : Exclusive reports) (same : reports.Perm others) :
    index.associateEach reports = index.associateEach others := by
  refine (h.associateEach reports).eq_of_attributes_iff (h.associateEach others) ?_
  intro deployment association
  rw [attributes_associateEach exclusive, attributes_associateEach (exclusive.perm same),
    same.mem_iff]
  simp only [same.mem_iff]

/-! ### Purges -/

theorem knows_purge (index : Index) (deployment other : DeploymentId) :
    (index.purge deployment).knows other = true ↔
      index.knows other = true ∧ deployment ≠ other := by
  rw [knows, knows, Std.ExtTreeMap.contains_iff_mem, Std.ExtTreeMap.contains_iff_mem,
    Std.ExtTreeMap.mem_iff_isSome_getElem?, Std.ExtTreeMap.mem_iff_isSome_getElem?,
    getElem?_owned_purge]
  by_cases same : deployment = other <;> simp [same]

/-- Every deployment that owned something is counted once, however often it is named. -/
theorem snd_purgeAll (index : Index) (deployments : List DeploymentId) :
    (index.purgeAll deployments).2 =
      (deployments.toFinset.filter fun deployment => index.knows deployment).card := by
  induction deployments generalizing index with
  | nil => rfl
  | cons first more ih =>
    have others : (more.toFinset.filter fun other => (index.purge first).knows other) =
        (more.toFinset.filter fun other => index.knows other).erase first := by
      ext other
      simp only [Finset.mem_filter, Finset.mem_erase, knows_purge]
      constructor
      · rintro ⟨there, known, different⟩
        exact ⟨different.symm, there, known⟩
      · rintro ⟨different, there, known⟩
        exact ⟨there, known, different.symm⟩
    have counted : (index.purgeAll (first :: more)).2 =
        if index.knows first then ((index.purge first).purgeAll more).2 + 1
        else ((index.purge first).purgeAll more).2 := rfl
    rw [counted, ih, others, List.toFinset_cons, Finset.filter_insert]
    by_cases known : index.knows first = true
    · rw [if_pos known, if_pos known, ← Finset.erase_insert_eq_erase,
        Finset.card_erase_add_one (Finset.mem_insert_self _ _)]
    · rw [if_neg known, if_neg known, Finset.erase_eq_of_notMem]
      simp [known]

/-- Which deployments are purged is all that matters, not how often or in which order they are
named. -/
theorem purgeAll_congr (h : index.Consistent) {deployments others : List DeploymentId}
    (same : ∀ deployment, deployment ∈ deployments ↔ deployment ∈ others) :
    index.purgeAll deployments = index.purgeAll others := by
  refine Prod.ext ?_ ?_
  · refine (h.purgeAll deployments).eq_of_attributes_iff (h.purgeAll others) ?_
    intro deployment association
    rw [attributes_purgeAll h, attributes_purgeAll h, same]
  · have named : deployments.toFinset = others.toFinset := by
      ext deployment
      rw [List.mem_toFinset, List.mem_toFinset, same]
    rw [snd_purgeAll, snd_purgeAll, named]

end Index

end Attribution
