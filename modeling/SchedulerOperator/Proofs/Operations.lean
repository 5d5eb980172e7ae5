import SchedulerOperator.Proofs.Members
import SchedulerOperator.Proofs.Outcomes

namespace SchedulerOperator

/-- A call of a client, or what users, administrators and the cluster itself do. -/
inductive Operation where
  | call (c : StoreCall)
  | install (api : ApiResource)
  | uninstall (api : ApiResource)
  | setAutoReady (on : Bool)
  | failOn (f : ArrangedFailure)
  | clearFailures
  | clearWrites
  | insertRoot (r : InferenceScheduler)
  | updateSpec (ns name : String) (edit : SchedulerSpec → SchedulerSpec)
  | requestDeletion (now ns name : String)
  | insertObject (api : ApiResource) (ns : Option String) (object : Json)
  | setReadyReplicas (api : ApiResource) (ns name : String) (ready : Int)

def Operation.apply : Operation → Cluster → Cluster
  | .call c, s => (s.answer c).2
  | .install api, s => s.install api
  | .uninstall api, s => s.uninstall api
  | .setAutoReady on, s => s.setAutoReady on
  | .failOn f, s => s.failOn f
  | .clearFailures, s => s.clearFailures
  | .clearWrites, s => s.clearWrites
  | .insertRoot r, s => (s.insertRoot r).2
  | .updateSpec ns name edit, s => (s.updateSpec ns name edit).2
  | .requestDeletion now ns name, s => (s.requestDeletion now ns name).2
  | .insertObject api ns object, s => s.insertObject api ns object
  | .setReadyReplicas api ns name ready, s => (s.setReadyReplicas api ns name ready).2

def SchedulerSpec.Fits (s : SchedulerSpec) : Prop :=
  ∀ n, s.modelServer.replicas = some n ∨ s.modelServer.port = some n ∨
      s.endpointPicker.replicas = some n ∨ s.endpointPicker.grpcPort = some n ∨
      s.gateway.listenerPort = some n →
    -2147483648 ≤ n ∧ n ≤ 2147483647

def StoreCall.WellTyped : StoreCall → Prop
  | .create _ _ object => object.Finite
  | .replace _ _ _ object => object.Finite
  | _ => True

def Operation.WellTyped : Operation → Prop
  | .call c => c.WellTyped
  | .insertRoot r => r.spec.Fits
  | .updateSpec _ _ edit => ∀ s, s.Fits → (edit s).Fits
  | .insertObject _ _ object => object.Finite
  | _ => True

namespace Cluster

inductive Reachable : Cluster → Prop where
  | empty : Reachable {}
  | next {s : Cluster} (o : Operation) (typed : o.WellTyped) (reached : Reachable s) :
      Reachable (o.apply s)

structure Placed (k : RootKey) (r : InferenceScheduler) : Prop where
  namespace_ : r.metadata.namespace_ = some k.namespace_
  name : r.name = k.name
  fits : r.spec.Fits

structure Kept (v : Json) : Prop where
  finite : v.Finite
  version : ∃ text, resourceVersion v = .str text

structure Sound (s : Cluster) : Prop where
  roots : ∀ e ∈ s.roots, Placed e.1 e.2
  objects : ∀ e ∈ s.objects, Kept e.2

variable {s : Cluster}

theorem finite_setMetadata {v w : Json} (key : String) (finite : v.Finite) (finite' : w.Finite) :
    (setMetadata key w v).Finite :=
  finite.set _ ((finite.get _).set _ finite')

theorem finite_placeIn {v : Json} (ns : Option String) (finite : v.Finite) :
    (placeIn ns v).Finite := by
  cases ns with
  | none => exact finite
  | some ns => exact finite_setMetadata _ finite trivial

theorem resourceVersion_set {v w : Json} :
    resourceVersion (setMetadata "resourceVersion" w v) = w := by
  rw [resourceVersion, setMetadata, Json.get_modify_self, Json.get_set_self]

theorem resourceVersion_modify {v : Json} {key : String} (f : Json → Json)
    (other : key ≠ "metadata") : resourceVersion (v.modify key f) = resourceVersion v := by
  rw [resourceVersion, Json.get_modify_other _ _ other.symm, resourceVersion]

theorem Kept.assignAddress {v : Json} (kept : Kept v) (kind : String) :
    Kept (s.assignAddress kind v).1 := by
  unfold Cluster.assignAddress
  split
  · refine ⟨kept.finite.set _ (((kept.finite.get _).set _ (Json.finite_str _)).set _ ⟨trivial, trivial⟩), ?_⟩
    rw [resourceVersion_modify _ (by decide)]
    exact kept.version
  · exact kept

theorem Kept.reportReady {v : Json} (kept : Kept v) (kind : String) (autoReady : Bool) :
    Kept (Cluster.reportReady kind autoReady v) := by
  unfold Cluster.reportReady
  split
  · refine ⟨kept.finite.set _ ⟨trivial, trivial, trivial⟩, ?_⟩
    rw [resourceVersion, Json.get_set_other _ _ (by decide)]
    exact kept.version
  · exact kept

theorem Kept.simulate {v : Json} (kept : Kept v) (kind : String) :
    Kept (s.simulate kind v).1 := (kept.assignAddress kind).reportReady kind _

theorem kept_versioned {v : Json} (finite : v.Finite) (text : String) :
    Kept (setMetadata "resourceVersion" (.str text) v) :=
  ⟨finite_setMetadata _ finite trivial, text, resourceVersion_set⟩

theorem Sound.root {ns name : String} {r : InferenceScheduler} (sound : s.Sound)
    (found : s.root? ns name = some r) : Placed ⟨ns, name⟩ r :=
  sound.roots _ (Assoc.mem_of_get? found)

theorem Sound.object {k : ObjectKey} {v : Json} (sound : s.Sound)
    (found : Assoc.get? k s.objects = some v) : Kept v :=
  sound.objects _ (Assoc.mem_of_get? found)

theorem Sound.putRoot {k : RootKey} {r : InferenceScheduler} (sound : s.Sound)
    (placed : Placed k r) : (s.putRoot k r).Sound where
  roots e mem := by
    rcases Assoc.mem_set mem with rfl | old
    · exact placed
    · exact sound.roots e old
  objects := sound.objects

theorem Sound.putObject {k : ObjectKey} {v : Json} (sound : s.Sound) (kept : Kept v) :
    (s.putObject k v).Sound where
  roots := sound.roots
  objects e mem := by
    rcases Assoc.mem_set mem with rfl | old
    · exact kept
    · exact sound.objects e old

theorem Sound.dropRoot (sound : s.Sound) (k : RootKey) (r : InferenceScheduler) :
    (s.dropRoot k r).Sound where
  roots e mem := sound.roots e (List.mem_filter.mp mem).1
  objects e mem := sound.objects e (List.mem_filter.mp mem).1

theorem Sound.same {t : Cluster} (sound : s.Sound) (roots : t.roots = s.roots)
    (objects : t.objects = s.objects) : t.Sound := by
  refine ⟨?_, ?_⟩
  · rw [roots]
    exact sound.roots
  · rw [objects]
    exact sound.objects

theorem Sound.setFinalizers (sound : s.Sound) (root : InferenceScheduler)
    (finalizers : List String) : (s.setFinalizers root finalizers).2.Sound := by
  cases s.setFinalizers_outcome root finalizers with
  | refused _ out =>
    rw [out]
    exact sound.same rfl rfl
  | released _ _ _ _ out =>
    rw [out]
    refine Sound.dropRoot ?_ _ _
    exact sound.same rfl rfl
  | stored found _ _ out =>
    rw [out]
    have placed := sound.root found
    exact Sound.putRoot (sound.same rfl rfl) ⟨placed.namespace_, placed.name, placed.fits⟩

theorem Sound.writeStatus (sound : s.Sound) (ns name : String) (status : SchedulerStatus) :
    (s.writeStatus ns name status).2.Sound := by
  cases s.writeStatus_outcome ns name status with
  | missing _ out | same _ _ out =>
    rw [out]
    exact sound.same rfl rfl
  | stored found _ out =>
    rw [out]
    have placed := sound.root found
    exact Sound.putRoot (sound.same rfl rfl) ⟨placed.namespace_, placed.name, placed.fits⟩

theorem kept_simulated {v object : Json} {kind text : String} {t : Cluster} (finite : object.Finite)
    (simulated : s.simulate kind (setMetadata "resourceVersion" (.str text) object) = (v, t)) :
    Kept v := by
  have kept := (kept_versioned finite text).simulate (s := s) kind
  rwa [simulated] at kept

theorem Sound.create {object : Json} (sound : s.Sound) (finite : object.Finite)
    (api : ApiResource) (ns : Option String) : (s.create api ns object).2.Sound := by
  cases s.create_outcome api ns object with
  | refused _ out =>
    rw [out]
    exact sound
  | stored _ _ simulated out =>
    rw [out]
    exact Sound.putObject (sound.same rfl rfl) (kept_simulated (finite_placeIn ns finite) simulated)

theorem Sound.replace {object : Json} (sound : s.Sound) (finite : object.Finite)
    (api : ApiResource) (ns : Option String) (name : String) :
    (s.replace api ns name object).2.Sound := by
  have finite' : ∀ {old}, s.object? api ns name = some old →
      (keepStatus old (placeIn ns object)).Finite := by
    intro old found
    unfold keepStatus
    split
    · exact (finite_placeIn ns finite).set _ ((sound.object found).finite.get? ‹_›)
    · exact finite_placeIn ns finite
  cases s.replace_outcome api ns name object with
  | refused _ out =>
    rw [out]
    exact sound
  | changed found _ _ simulated out =>
    rw [out]
    exact Sound.putObject (sound.same rfl rfl) (kept_simulated (finite' found) simulated)
  | unchanged found _ _ simulated out =>
    rw [out]
    obtain ⟨text, version⟩ := (sound.object found).version
    rw [version] at simulated
    exact Sound.putObject (sound.same rfl rfl) (kept_simulated (finite' found) simulated)

theorem Sound.delete (sound : s.Sound) (api : ApiResource) (ns : Option String) (name : String) :
    (s.delete api ns name).2.Sound := by
  cases s.delete_outcome api ns name with
  | refused _ _ out =>
    rw [out]
    exact sound
  | removed _ out =>
    rw [out]
    exact ⟨sound.roots, fun e mem => sound.objects e (List.mem_filter.mp mem).1⟩

theorem Sound.answer (sound : s.Sound) {c : StoreCall} (typed : c.WellTyped) :
    (s.answer c).2.Sound := by
  rcases answer_cases (s := s) c with ⟨e, failed⟩ | performed
  · rw [failed]
    exact sound
  · rw [performed]
    cases c with
    | setFinalizers root finalizers => exact sound.setFinalizers root finalizers
    | writeStatus ns name status => exact sound.writeStatus ns name status
    | create api ns object => exact sound.create typed api ns
    | replace api ns name object => exact sound.replace typed api ns name
    | delete api ns name => exact sound.delete api ns name
    | _ => exact sound

theorem Sound.insertRoot (sound : s.Sound) {r : InferenceScheduler} (fits : r.spec.Fits) :
    (s.insertRoot r).2.Sound := by
  obtain ⟨uid, uids, _, out⟩ := s.insertRoot_outcome r
  rw [out]
  exact Sound.putRoot (sound.same rfl rfl) ⟨rfl, rfl, fits⟩

theorem Sound.updateSpec (sound : s.Sound) {edit : SchedulerSpec → SchedulerSpec}
    (fitting : ∀ s, s.Fits → (edit s).Fits) (ns name : String) :
    (s.updateSpec ns name edit).2.Sound := by
  cases s.updateSpec_outcome ns name edit with
  | missing out =>
    rw [out]
    exact sound.same rfl rfl
  | stored found out =>
    rw [out]
    have placed := sound.root found
    exact Sound.putRoot (sound.same rfl rfl) ⟨placed.namespace_, placed.name, fitting _ placed.fits⟩

theorem Sound.requestDeletion (sound : s.Sound) (now ns name : String) :
    (s.requestDeletion now ns name).2.Sound := by
  cases s.requestDeletion_outcome now ns name with
  | missing out =>
    rw [out]
    exact sound.same rfl rfl
  | gone _ _ out =>
    rw [out]
    refine Sound.dropRoot ?_ _ _
    exact sound.same rfl rfl
  | stored found _ out =>
    rw [out]
    have placed := sound.root found
    exact Sound.putRoot (sound.same rfl rfl) ⟨placed.namespace_, placed.name, placed.fits⟩

theorem Sound.insertObject {object : Json} (sound : s.Sound) (finite : object.Finite)
    (api : ApiResource) (ns : Option String) : (s.insertObject api ns object).Sound :=
  (sound.same rfl rfl : s.bump.2.Sound).putObject
    (kept_versioned (finite_placeIn ns ((finite.set _ (Json.finite_str _)).set _ (Json.finite_str _))) _)

theorem Sound.setReadyReplicas (sound : s.Sound) (api : ApiResource) (ns name : String)
    (ready : Int) : (s.setReadyReplicas api ns name ready).2.Sound := by
  cases s.setReadyReplicas_outcome api ns name ready with
  | missing _ out =>
    rw [out]
    exact sound.same rfl rfl
  | stored found out =>
    rw [out]
    have finite := (sound.object found).finite
    refine Sound.putObject (sound.same rfl rfl) (kept_versioned ?_ _)
    exact finite.set _ ((finite.get _).set _ (Json.finite_int _))

theorem Sound.apply (sound : s.Sound) {o : Operation} (typed : o.WellTyped) :
    (o.apply s).Sound := by
  cases o with
  | call c => exact sound.answer typed
  | install api =>
    obtain ⟨types, out⟩ := s.install_outcome api
    exact (congrArg Sound out).mpr (sound.same rfl rfl)
  | insertRoot r => exact sound.insertRoot typed
  | updateSpec ns name edit => exact sound.updateSpec typed ns name
  | requestDeletion now ns name => exact sound.requestDeletion now ns name
  | insertObject api ns object => exact sound.insertObject typed api ns
  | setReadyReplicas api ns name ready => exact sound.setReadyReplicas api ns name ready
  | _ => exact sound.same rfl rfl

theorem Reachable.sound (reached : Reachable s) : s.Sound := by
  induction reached with
  | empty => exact ⟨fun e mem => absurd mem List.not_mem_nil, fun e mem => absurd mem List.not_mem_nil⟩
  | next o typed _ ih => exact ih.apply typed

theorem Reachable.foldl (reached : Reachable s) (os : List Operation)
    (typed : ∀ o ∈ os, o.WellTyped) : Reachable (os.foldl (fun s o => o.apply s) s) := by
  induction os generalizing s with
  | nil => exact reached
  | cons o rest ih =>
    exact ih (reached.next o (typed o List.mem_cons_self)) fun o mem =>
      typed o (List.mem_cons_of_mem _ mem)

def freshOperations : List Operation :=
  (ResourceType.all.map fun t => .install t.builtinApi) ++
    [.setAutoReady true,
     .insertObject ResourceType.gatewayClass.builtinApi none
       (.obj [("metadata", .obj [("name", .str "kgateway")])]),
     .insertRoot
       { metadata := { name := some "demo" }
         spec := { modelServer := { modelName := "m", hfTokenSecretName := "s" } }
         status := none }]

def fresh : Cluster := freshOperations.foldl (fun s o => o.apply s) {}

theorem forall_freshOperations {P : Operation → Prop}
    (types : ∀ t : ResourceType, P (.install t.builtinApi)) (ready : P (.setAutoReady true))
    (gatewayClass : P (.insertObject ResourceType.gatewayClass.builtinApi none
      (.obj [("metadata", .obj [("name", .str "kgateway")])])))
    (root : P (.insertRoot
      { metadata := { name := some "demo" }
        spec := { modelServer := { modelName := "m", hfTokenSecretName := "s" } }
        status := none })) : ∀ o ∈ freshOperations, P o := by
  intro o mem
  rcases List.mem_append.mp mem with installs | rest
  · obtain ⟨t, _, rfl⟩ := List.mem_map.mp installs
    exact types t
  · simp only [List.mem_cons, List.not_mem_nil, or_false] at rest
    rcases rest with rfl | rfl | rfl
    · exact ready
    · exact gatewayClass
    · exact root

theorem fresh_reachable : fresh.Reachable := by
  refine Reachable.empty.foldl freshOperations (forall_freshOperations (fun _ => trivial) trivial
    ⟨⟨trivial, trivial⟩, trivial⟩ ?_)
  intro n field
  simp at field

end Cluster
end SchedulerOperator
