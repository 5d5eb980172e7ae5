import SchedulerOperator.Proofs.Codec
import SchedulerOperator.Scheduler.Status

namespace SchedulerOperator
open Decode Fields

def IsInt32 (n : Int) : Prop := -2147483648 ≤ n ∧ n ≤ 2147483647

theorem isInt32_zero : IsInt32 0 := ⟨by decide, by decide⟩

structure ResourceRequirements.Representable (r : ResourceRequirements) : Prop where
  limits : ∀ m ∈ r.limits, Assoc.Ascending m
  requests : ∀ m ∈ r.requests, Assoc.Ascending m

structure ScorerPlugin.Representable (p : ScorerPlugin) : Prop where
  weight : ∀ w ∈ p.weight, w.isFinite = true
  parameters : ∀ m ∈ p.parameters, Assoc.Ascending m

structure PluginConfig.Representable (c : PluginConfig) : Prop where
  loadAwareScorer : ∀ p ∈ c.loadAwareScorer, p.Representable
  prefixCacheScorer : ∀ p ∈ c.prefixCacheScorer, p.Representable
  kvCacheUtilizationScorer : ∀ p ∈ c.kvCacheUtilizationScorer, p.Representable

structure ModelServerSpec.Representable (s : ModelServerSpec) : Prop where
  replicas : ∀ n ∈ s.replicas, IsInt32 n
  resources : ∀ r ∈ s.resources, r.Representable
  gpuMemoryUtilization : ∀ x ∈ s.gpuMemoryUtilization, x.isFinite = true
  port : ∀ n ∈ s.port, IsInt32 n
  labels : ∀ m ∈ s.labels, Assoc.Ascending m

structure EndpointPickerSpec.Representable (s : EndpointPickerSpec) : Prop where
  replicas : ∀ n ∈ s.replicas, IsInt32 n
  grpcPort : ∀ n ∈ s.grpcPort, IsInt32 n
  plugins : ∀ c ∈ s.plugins, c.Representable
  resources : ∀ r ∈ s.resources, r.Representable

structure GatewaySpec.Representable (s : GatewaySpec) : Prop where
  listenerPort : ∀ n ∈ s.listenerPort, IsInt32 n

structure SchedulerSpec.Representable (s : SchedulerSpec) : Prop where
  modelServer : s.modelServer.Representable
  endpointPicker : s.endpointPicker.Representable
  gateway : s.gateway.Representable

structure SchedulerStatus.Representable (s : SchedulerStatus) : Prop where
  modelServerReplicas : IsInt32 s.modelServerReplicas
  eppReplicas : IsInt32 s.eppReplicas

namespace Decode

theorem inverts_int32 : int32.Inverts .int IsInt32 := inverts_integer

theorem inverts_name {α : Type} {dec : Decoder α} {name : α → String}
    (reads : ∀ a, dec.ofJson (.str (name a)) = .ok a) :
    dec.Inverts (fun a => .str (name a)) fun _ => True where
  shown _ _ := nofun
  reads a _ := reads a
  yields _ _ _ _ := trivial

theorem inverts_lenient {α : Type} {dec : Decoder α} {write : α → Json} {P : α → Prop} {a : α}
    (inverts : dec.Inverts write P) (holds : P a) :
    ((Decode.optional dec).map (·.getD a)).Inverts write P where
  shown := inverts.shown
  reads b holds := by
    change ((Decode.optional dec).ofJson (write b)).map _ = _
    rw [optional_reads (inverts.shown b holds) (inverts.reads b holds)]
    rfl
  yields v b bounded read := by
    change ((Decode.optional dec).ofJson v).map _ = _ at read
    cases taken : (Decode.optional dec).ofJson v with
    | error e =>
      rw [taken] at read
      cases read
    | ok o =>
      rw [taken] at read
      cases read
      rcases of_optional taken with ⟨_, rfl⟩ | ⟨_, b, rfl, value⟩
      · exact holds
      · exact inverts.yields v b bounded value

end Decode

theorem ServerType.inverts : decoder.Inverts (fun t => .str t.name) fun _ => True :=
  inverts_name fun t => by cases t <;> rfl

theorem GatewayClassName.inverts : decoder.Inverts (fun c => .str c.name) fun _ => True :=
  inverts_name fun c => by cases c <;> rfl

theorem ServiceExposure.inverts : decoder.Inverts (fun e => .str e.name) fun _ => True :=
  inverts_name fun e => by cases e <;> rfl

theorem Phase.inverts : decoder.Inverts (fun p => .str p.name) fun _ => True :=
  inverts_name fun p => by cases p <;> rfl

theorem ConditionType.inverts : decoder.Inverts (fun t => .str t.name) fun _ => True :=
  inverts_name fun t => by cases t <;> rfl

theorem ConditionStatus.inverts : decoder.Inverts (fun s => .str s.name) fun _ => True :=
  inverts_name fun s => by cases s <;> rfl

theorem ResourceClaim.inverts : ResourceClaim.decoder.Inverts toJson fun _ => True := by
  refine Agrees.invertsObject ["name", "request"] (by decide) (fun _ => rfl) (.apply (.apply
    (.constant fun _ _ _ _ => trivial)
    (.defaulted name (inverts_lenient inverts_text trivial) (fun _ => Or.inl rfl)
      (fun _ _ => trivial) trivial))
    (.optional request inverts_text (fun _ => rfl) fun _ _ _ _ => trivial)) fun _ => rfl

theorem ResourceRequirements.inverts :
    ResourceRequirements.decoder.Inverts toJson Representable := by
  refine Agrees.invertsObject ["claims", "limits", "requests"] (by decide) (fun _ => rfl)
    (.apply (.apply (.apply (.constant ?_)
    (.optional claims (inverts_list ResourceClaim.inverts) (fun _ => rfl)
      fun _ _ _ _ _ _ => trivial))
    (.optional limits inverts_textMap (fun _ => rfl) fun _ sound => sound.limits))
    (.optional requests inverts_textMap (fun _ => rfl) fun _ sound => sound.requests)) fun _ => rfl
  intro claims _ limits ascending requests ascending'
  exact ⟨ascending, ascending'⟩

theorem ScorerPlugin.inverts : ScorerPlugin.decoder.Inverts toJson Representable := by
  refine Agrees.inverts ["enabled", "parameters", "weight"] (by decide) (fun _ => rfl)
    (.apply (.apply (.apply (.constant ?_)
    (.optional enabled inverts_boolean (fun _ => rfl) fun _ _ _ _ => trivial))
    (.optional weight inverts_double (fun _ => rfl) fun _ sound => sound.weight))
    (.optional parameters inverts_textMap (fun _ => rfl) fun _ sound => sound.parameters))
    (fun _ => rfl) (by decide)
  intro enabled _ weight finite parameters ascending
  exact ⟨finite, ascending⟩

theorem PluginConfig.inverts : PluginConfig.decoder.Inverts toJson Representable := by
  refine Agrees.inverts ["kvCacheUtilizationScorer", "loadAwareScorer", "prefixCacheScorer"]
    (by decide) (fun _ => rfl) (.apply (.apply (.apply (.constant ?_)
    (.optional loadAwareScorer ScorerPlugin.inverts (fun _ => rfl)
      fun _ sound => sound.loadAwareScorer))
    (.optional prefixCacheScorer ScorerPlugin.inverts (fun _ => rfl)
      fun _ sound => sound.prefixCacheScorer))
    (.optional kvCacheUtilizationScorer ScorerPlugin.inverts (fun _ => rfl)
      fun _ sound => sound.kvCacheUtilizationScorer))
    (fun _ => rfl) (by decide)
  intro load loadSound prefixed prefixSound cache cacheSound
  exact ⟨loadSound, prefixSound, cacheSound⟩

theorem ModelServerSpec.inverts : ModelServerSpec.decoder.Inverts toJson Representable := by
  refine Agrees.inverts ["enablePrefixCaching", "gpuMemoryUtilization", "hfTokenSecretName",
      "image", "labels", "modelName", "port", "replicas", "resources", "type"]
    (by decide) (fun _ => rfl)
    (.apply (.apply (.apply (.apply (.apply (.apply (.apply (.apply (.apply (.apply (.constant ?_)
    (.optional serverType ServerType.inverts (fun _ => rfl) fun _ _ _ _ => trivial))
    (.required modelName inverts_text (fun _ => rfl) fun _ _ => trivial))
    (.optional replicas inverts_int32 (fun _ => rfl) fun _ sound => sound.replicas))
    (.optional image inverts_text (fun _ => rfl) fun _ _ _ _ => trivial))
    (.optional resources ResourceRequirements.inverts (fun _ => rfl)
      fun _ sound => sound.resources))
    (.optional enablePrefixCaching inverts_boolean (fun _ => rfl) fun _ _ _ _ => trivial))
    (.optional gpuMemoryUtilization inverts_double (fun _ => rfl)
      fun _ sound => sound.gpuMemoryUtilization))
    (.required hfTokenSecretName inverts_text (fun _ => rfl) fun _ _ => trivial))
    (.optional port inverts_int32 (fun _ => rfl) fun _ sound => sound.port))
    (.optional labels inverts_textMap (fun _ => rfl) fun _ sound => sound.labels))
    (fun _ => rfl) (by decide)
  intro _ _ _ _ replicas narrow _ _ resources sound _ _ gpu finite _ _ port narrow' labels ascending
  exact ⟨narrow, sound, finite, narrow', ascending⟩

theorem EndpointPickerSpec.inverts : EndpointPickerSpec.decoder.Inverts toJson Representable := by
  refine Agrees.inverts ["grpcPort", "image", "plugins", "replicas", "resources"] (by decide)
    (fun _ => rfl) (.apply (.apply (.apply (.apply (.apply (.constant ?_)
    (.optional image inverts_text (fun _ => rfl) fun _ _ _ _ => trivial))
    (.optional replicas inverts_int32 (fun _ => rfl) fun _ sound => sound.replicas))
    (.optional grpcPort inverts_int32 (fun _ => rfl) fun _ sound => sound.grpcPort))
    (.optional plugins PluginConfig.inverts (fun _ => rfl) fun _ sound => sound.plugins))
    (.optional resources ResourceRequirements.inverts (fun _ => rfl)
      fun _ sound => sound.resources))
    (fun _ => rfl) (by decide)
  intro _ _ replicas narrow port narrow' plugins sound resources sound'
  exact ⟨narrow, narrow', sound, sound'⟩

theorem GatewaySpec.inverts : GatewaySpec.decoder.Inverts toJson Representable := by
  refine Agrees.inverts ["className", "listenerPort", "serviceType"] (by decide) (fun _ => rfl)
    (.apply (.apply (.apply (.constant ?_)
    (.optional className GatewayClassName.inverts (fun _ => rfl) fun _ _ _ _ => trivial))
    (.optional listenerPort inverts_int32 (fun _ => rfl) fun _ sound => sound.listenerPort))
    (.optional serviceType ServiceExposure.inverts (fun _ => rfl) fun _ _ _ _ => trivial))
    (fun _ => rfl) (by decide)
  intro _ _ port narrow _ _
  exact ⟨narrow⟩

theorem EndpointPickerSpec.representable_empty : ({} : EndpointPickerSpec).Representable := by
  constructor <;> simp

theorem SchedulerSpec.inverts : SchedulerSpec.decoder.Inverts toJson Representable := by
  refine Agrees.inverts ["endpointPicker", "gateway", "modelServer"] (by decide) (fun _ => rfl)
    (.apply (.apply (.apply (.constant ?_)
    (.required modelServer ModelServerSpec.inverts (fun _ => rfl) fun _ sound => sound.modelServer))
    (.defaulted endpointPicker EndpointPickerSpec.inverts (fun _ => Or.inl rfl)
      (fun _ sound => sound.endpointPicker) EndpointPickerSpec.representable_empty))
    (.defaulted gateway GatewaySpec.inverts (fun _ => Or.inl rfl) (fun _ sound => sound.gateway)
      ⟨nofun⟩))
    (fun _ => rfl) (by decide)
  intro modelServer sound endpointPicker sound' gateway sound''
  exact ⟨sound, sound', sound''⟩

theorem Condition.inverts : Condition.decoder.Inverts toJson fun _ => True := by
  refine Agrees.inverts ["lastTransitionTime", "message", "observedGeneration", "reason",
      "status", "type"] (by decide) (fun _ => rfl)
    (.apply (.apply (.apply (.apply (.apply (.apply
    (.constant fun _ _ _ _ _ _ _ _ _ _ _ _ => trivial)
    (.required type_ ConditionType.inverts (fun _ => rfl) fun _ _ => trivial))
    (.required status ConditionStatus.inverts (fun _ => rfl) fun _ _ => trivial))
    (.optional reason inverts_text (fun _ => rfl) fun _ _ _ _ => trivial))
    (.optional message inverts_text (fun _ => rfl) fun _ _ _ _ => trivial))
    (.optional lastTransitionTime inverts_text (fun _ => rfl) fun _ _ _ _ => trivial))
    (.optional observedGeneration inverts_int64 (fun _ => rfl) fun _ _ _ _ => trivial))
    (fun _ => rfl) (by decide)

namespace SchedulerStatus

def listed (conditions : Option Json) (s : SchedulerStatus) : List (String × Option Json) :=
  [("conditions", conditions),
   ("eppReplicas", some (.int s.eppReplicas)),
   ("gatewayReady", some (.bool s.gatewayReady)),
   ("inferencePoolReady", some (.bool s.inferencePoolReady)),
   ("modelServerReplicas", some (.int s.modelServerReplicas)),
   ("observedGeneration", s.observedGeneration.map .word),
   ("phase", s.phase.map fun p => .str p.name),
   ("prerequisiteMessage", s.prerequisiteMessage.map .str),
   ("prerequisitesValidated", some (.bool s.prerequisitesValidated))]

theorem agrees {conditions : SchedulerStatus → Option Json}
    (told : ∀ s, conditions s = some (conditionsJson s.conditions) ∨
      conditions s = none ∧ s.conditions = []) :
    Agrees (fun s => s.listed (conditions s)) Representable fields (fun s => s) Representable := by
  refine .apply (.apply (.apply (.apply (.apply (.apply (.apply (.apply (.apply (.constant ?_)
    (.optional phase Phase.inverts (fun _ => rfl) fun _ _ _ _ => trivial))
    (.defaulted SchedulerStatus.conditions (inverts_list Condition.inverts) (fun s => ?_)
      (fun _ _ _ _ => trivial) (List.forall_mem_nil _)))
    (.defaulted modelServerReplicas inverts_int32 (fun _ => Or.inl rfl)
      (fun _ sound => sound.modelServerReplicas) isInt32_zero))
    (.defaulted eppReplicas inverts_int32 (fun _ => Or.inl rfl)
      (fun _ sound => sound.eppReplicas) isInt32_zero))
    (.defaulted gatewayReady inverts_boolean (fun _ => Or.inl rfl) (fun _ _ => trivial) trivial))
    (.defaulted inferencePoolReady inverts_boolean (fun _ => Or.inl rfl) (fun _ _ => trivial)
      trivial))
    (.defaulted prerequisitesValidated inverts_boolean (fun _ => Or.inl rfl) (fun _ _ => trivial)
      trivial))
    (.optional prerequisiteMessage inverts_text (fun _ => rfl) fun _ _ _ _ => trivial))
    (.optional observedGeneration inverts_int64 (fun _ => rfl) fun _ _ _ _ => trivial)
  · intro _ _ _ _ model narrow epp narrow' _ _ _ _ _ _ _ _ _ _
    exact ⟨narrow, narrow'⟩
  · exact (told s).imp (congrArg some) (And.imp_left (congrArg some))

theorem inverts : decoder.Inverts toJson Representable := by
  refine Agrees.inverts ["conditions", "eppReplicas", "gatewayReady", "inferencePoolReady",
      "modelServerReplicas", "observedGeneration", "phase", "prerequisiteMessage",
      "prerequisitesValidated"] (by decide) (fun _ => rfl) (agrees fun s => ?_) (fun _ => rfl)
    (by decide)
  split
  · exact .inr ⟨rfl, List.isEmpty_iff.mp ‹_›⟩
  · exact .inl rfl

end SchedulerStatus

namespace Decoder
variable {α : Type} {dec : Decoder α} {write : α → Json} {P : α → Prop} {a : α}

/-- What becomes of a value that is written and read again `n` times. -/
def rounds (dec : Decoder α) (write : α → Json) : Nat → α → Except DecodeError α
  | 0, a => .ok a
  | n + 1, a => do rounds dec write n (← dec.ofJson (write a))

theorem Inverts.rounds (inverts : dec.Inverts write P) (holds : P a) (n : Nat) :
    dec.rounds write n a = .ok a := by
  induction n with
  | zero => rfl
  | succ n ih =>
    rw [Decoder.rounds, inverts.reads a holds]
    exact ih

end Decoder

/-- What is written of a status or a spec is read as the same. And what is read as one, of
whatever value, stays as it is however often it is written and read. -/
theorem reading_undoes_writing :
    (∀ s : SchedulerStatus, s.Representable → SchedulerStatus.decoder.ofJson s.toJson = .ok s) ∧
    (∀ s : SchedulerSpec, s.Representable → SchedulerSpec.decoder.ofJson s.toJson = .ok s) ∧
    (∀ v s, v.Bounded → SchedulerStatus.decoder.ofJson v = .ok s →
      ∀ n, SchedulerStatus.decoder.rounds SchedulerStatus.toJson n s = .ok s) ∧
    (∀ v s, v.Bounded → SchedulerSpec.decoder.ofJson v = .ok s →
      ∀ n, SchedulerSpec.decoder.rounds SchedulerSpec.toJson n s = .ok s) := by
  refine ⟨SchedulerStatus.inverts.reads, SchedulerSpec.inverts.reads, ?_, ?_⟩
  · intro v s bounded read n
    exact SchedulerStatus.inverts.rounds (SchedulerStatus.inverts.yields v s bounded read) n
  · intro v s bounded read n
    exact SchedulerSpec.inverts.rounds (SchedulerSpec.inverts.yields v s bounded read) n

def SchedulerSpec.furnished : SchedulerSpec where
  modelServer :=
    { serverType := some .tgi
      modelName := "m"
      replicas := some 2
      resources := some ⟨some [], some [("cpu", "4"), ("memory", "16Gi")], none⟩
      gpuMemoryUtilization := some (Double.ofRatio false 9 10)
      hfTokenSecretName := "s"
      labels := some [("component", "x"), ("team", "ml")] }
  endpointPicker := { plugins := some { loadAwareScorer := some { parameters := some [] } } }
  gateway := { className := some .gkeL7RegionalExternalManaged }

def SchedulerStatus.listedJson : Json :=
  .arr [.obj [("Deploying", .null)],
    .arr [.obj [("type", .str "Drained"), ("status", .str "True"), ("since", .int 3)],
      .arr [.str "EPPReady", .str "False", .null, .str "1/2 ready"]]]

def SchedulerStatus.listedStatus : SchedulerStatus where
  phase := some .deploying
  conditions := [{ type_ := .unknown, status := .true_ },
    { type_ := .eppReady, status := .false_, message := some "1/2 ready" }]

theorem furnished_and_listed_stay :
    let spec := SchedulerSpec.furnished
    let status := SchedulerStatus.listedStatus
    (spec.Representable ∧ SchedulerSpec.decoder.ofJson spec.toJson = .ok spec) ∧
    (status.Representable ∧ SchedulerStatus.decoder.ofJson status.toJson = .ok status) ∧
    (SchedulerStatus.listedJson.Bounded ∧
      SchedulerStatus.decoder.ofJson SchedulerStatus.listedJson = .ok status ∧
      ∀ n, SchedulerStatus.decoder.rounds SchedulerStatus.toJson n status = .ok status) ∧
    (spec.toJson.Bounded ∧
      ∀ n, SchedulerSpec.decoder.rounds SchedulerSpec.toJson n spec = .ok spec) := by
  intro spec status
  obtain ⟨ofStatus, ofSpec, stayStatus, staySpec⟩ := reading_undoes_writing
  have bounded : SchedulerStatus.listedJson.Bounded := by
    simp [SchedulerStatus.listedJson, Json.Bounded, Json.BoundedItems, Json.BoundedMembers]
  have read : SchedulerStatus.decoder.ofJson SchedulerStatus.listedJson = .ok status := rfl
  have boundedSpec : spec.toJson.Bounded := by
    have finite : (Double.ofRatio false 9 10).isFinite = true := by decide
    have written : Json.ofDouble (Double.ofRatio false 9 10) =
        .double (Double.ofRatio false 9 10) := if_pos finite
    simp [spec, SchedulerSpec.furnished, SchedulerSpec.toJson, ModelServerSpec.toJson,
      EndpointPickerSpec.toJson, GatewaySpec.toJson, PluginConfig.toJson, ScorerPlugin.toJson,
      ResourceRequirements.toJson, Json.present, Json.textMap, Json.Bounded, Json.BoundedMembers,
      Json.BoundedItems, written, finite]
  have readSpec : SchedulerSpec.decoder.ofJson spec.toJson = .ok spec := rfl
  have soundStatus := SchedulerStatus.inverts.yields _ _ bounded read
  have soundSpec := SchedulerSpec.inverts.yields _ _ boundedSpec readSpec
  exact ⟨⟨soundSpec, ofSpec _ soundSpec⟩, ⟨soundStatus, ofStatus _ soundStatus⟩,
    ⟨bounded, read, stayStatus _ _ bounded read⟩,
    ⟨boundedSpec, staySpec _ _ boundedSpec readSpec⟩⟩

end SchedulerOperator
