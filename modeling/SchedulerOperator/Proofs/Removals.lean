import SchedulerOperator.Proofs.Isolation
import SchedulerOperator.Proofs.Teardown

namespace SchedulerOperator.Engine
open Cluster Pass
variable {g : Engine} {k : RootKey} {s t z : Cluster} {r : InferenceScheduler} {uid : String}
  {before trace : List Turn} {out : Except ReconcileError Requeue}

/-- What does not name `uid` as an owner is still there, unless it lies where a sweep deletes. -/
def LeavesUnowned (g : Engine) (k : RootKey) (uid : String) (s z : Cluster) : Prop :=
  ∀ e ∈ s.objects, isOwnedBy uid e.2 = false →
    e ∈ z.objects ∨ g.settings.cleanup = .sweep ∧ e.1 ∈ g.ownKeys k

theorem Standing.leaves (standing : g.Standing k r s before z) : g.LeavesUnowned k uid s z := by
  intro e mem _
  cases policy : g.settings.cleanup with
  | cascade =>
    left
    rw [standing.whole policy]
    exact mem
  | sweep =>
    by_cases own : e.1 ∈ g.ownKeys k
    · exact .inr ⟨rfl, own⟩
    · have kept : e ∈ z.besides (g.ownKeys k) := by
        rw [standing.confined.objects]
        exact List.mem_filter.mpr ⟨mem, decide_eq_true own⟩
      exact .inl (List.mem_filter.mp kept).1

theorem Standing.leaves_released {root : InferenceScheduler} {finalizers : List String}
    (standing : g.Standing k r s before z) (located : Located k r) (known : r.metadata.uid = some uid)
    (may : g.MayTearDown r before (.setFinalizers root finalizers)) :
    g.LeavesUnowned k uid s (z.answer (.setFinalizers root finalizers)).2 := by
  intro e mem unowned
  refine (standing.leaves e mem unowned).imp_left fun left => ?_
  rcases standing.lets_go located known may rfl with ⟨objects, _⟩ | ⟨_, _, objects⟩
  · rw [objects]
    exact left
  · rw [objects]
    exact List.mem_filter.mpr ⟨left, by simp [unowned]⟩

theorem tearDown_leaves (located : Located k r) (found : Assoc.get? k s.roots = some r)
    (known : r.metadata.uid = some uid)
    (turns : TurnsOn Cluster.answer (g.tearDown r) s trace out t) : g.LeavesUnowned k uid s t := by
  refine tearDown_ends located found ?_ ?_ turns
  · intro before z standing
    exact standing.leaves
  · intro before z root finalizers standing may
    exact standing.leaves_released located known may

/-- However a pass over a root that is being deleted ends, and whatever failures are arranged: an
object that does not name the root as an owner stays as it is, unless children are swept, the root
carries the marker, and the object lies under the name of one of the root's children. -/
theorem unowned_objects_stay {ns name : String} (reached : s.Reachable)
    (found : s.root? ns name = some r) (deleted : r.metadata.deletionTimestamp.isSome)
    (run : RunsOn Cluster.answer (g.reconcile ns name) s out t) :
    ∃ uid, r.metadata.uid = some uid ∧
      ∀ e ∈ s.objects, isOwnedBy uid e.2 = false → e ∈ t.objects ∨
        g.settings.cleanup = .sweep ∧ r.hasMarker = true ∧
          e.1 ∈ childObjectKeys g.registry ns name := by
  obtain ⟨m, _, stamped⟩ := reached.versioned ⟨ns, name⟩ r found
  obtain ⟨uid, known⟩ := Option.isSome_iff_exists.mp stamped.uid
  refine ⟨uid, known, ?_⟩
  intro e mem unowned
  rcases reconcile_goes_on run with rfl | ⟨r', trace, found', tail⟩
  · exact .inl mem
  · cases found.symm.trans found'
    rw [if_pos deleted] at tail
    cases marked : r.hasMarker with
    | false =>
      rw [tearDown_unmarked g marked] at tail
      cases tail
      exact .inl mem
    | true =>
      refine (tearDown_leaves stamped.located found known tail e mem unowned).imp_right ?_
      rintro ⟨policy, own⟩
      exact ⟨policy, rfl, own⟩

def sharedOperations : List Operation :=
  let made (name : String) : Json := .obj [("metadata", .obj [("name", .str name)])]
  [.insertObject ResourceType.deployment.builtinApi (some "default") (made "demo-model-server"),
   .insertObject ResourceType.configMap.builtinApi (some "default") (made "notes")]

def shared : Cluster := sharedOperations.foldl (fun s o => o.apply s) doomed

theorem shared_reachable : shared.Reachable := by
  refine doomed_reachable.foldl sharedOperations fun o mem => ?_
  simp only [sharedOperations, List.mem_cons, List.not_mem_nil, or_false] at mem
  rcases mem with rfl | rfl
  · exact ⟨⟨trivial, trivial⟩, trivial⟩
  · exact ⟨⟨trivial, trivial⟩, trivial⟩

theorem shared_root : ∃ r, shared.root? "default" "demo" = some r ∧
    r.metadata.deletionTimestamp.isSome ∧ r.metadata.uid = some (uidText 1) :=
  ⟨_, rfl, by decide +kernel, by decide +kernel⟩

theorem shared_unowned (key : ObjectKey)
    (has : ((Assoc.get? key shared.objects).any fun v => !isOwnedBy (uidText 1) v) = true) :
    ∃ v, (key, v) ∈ shared.objects ∧ isOwnedBy (uidText 1) v = false := by
  obtain ⟨v, found, unowned⟩ := Option.any_eq_true _ _ |>.mp has
  exact ⟨v, Assoc.mem_of_get? found, by simpa using unowned⟩

theorem notes_stay : ∃ v,
    (ResourceType.configMap.builtinApi.objectKey (some "default") "notes", v) ∈
      (((Engine.mk .builtin { cleanup := .sweep }).reconcile "default" "demo").run
        (Cluster.asStore "") shared).2.objects := by
  obtain ⟨r, found, deleted, known⟩ := shared_root
  obtain ⟨v, mem, unowned⟩ := shared_unowned
    (ResourceType.configMap.builtinApi.objectKey (some "default") "notes") (by decide +kernel)
  obtain ⟨uid, known', stays⟩ := unowned_objects_stay shared_reachable found deleted
    (runsOn_run (Cluster.asStore "")
      ((Engine.mk .builtin { cleanup := .sweep }).reconcile "default" "demo") shared)
  obtain rfl : uidText 1 = uid := Option.some.inj (known.symm.trans known')
  have foreign : ResourceType.configMap.builtinApi.objectKey (some "default") "notes" ∉
      childObjectKeys .builtin "default" "demo" := by decide +kernel
  exact ⟨v, (stays _ mem unowned).resolve_right fun own => foreign own.2.2⟩

/-- Not everything that the root does not own stays: a sweep takes the other client's Deployment,
which lies under the name of a child. -/
theorem sweep_takes_unowned_child :
    ¬ ∀ (s : Cluster) (settings : PassSettings) (ns name uid : String) (r : InferenceScheduler)
      (out : Except ReconcileError Requeue) (t : Cluster), s.Reachable →
      s.root? ns name = some r → r.metadata.deletionTimestamp.isSome → r.metadata.uid = some uid →
      RunsOn Cluster.answer ((Engine.mk .builtin settings).reconcile ns name) s out t →
      ∀ e ∈ s.objects, isOwnedBy uid e.2 = false → (Assoc.get? e.1 t.objects).isSome := by
  intro stays
  obtain ⟨r, found, deleted, known⟩ := shared_root
  let key := ResourceType.deployment.builtinApi.objectKey (some "default") "demo-model-server"
  obtain ⟨v, mem, unowned⟩ := shared_unowned key (by decide +kernel)
  have left : (Assoc.get? key _).isSome :=
    stays shared { cleanup := .sweep } "default" "demo" _ r _ _ shared_reachable found deleted known
      (runsOn_run (Cluster.asStore "") _ shared) _ mem unowned
  have gone : Assoc.get? key (((Engine.mk .builtin { cleanup := .sweep }).reconcile "default"
      "demo").run (Cluster.asStore "") shared).2.objects = none :=
    Option.isNone_iff_eq_none.mp (by decide +kernel)
  rw [gone] at left
  cases left

end SchedulerOperator.Engine
