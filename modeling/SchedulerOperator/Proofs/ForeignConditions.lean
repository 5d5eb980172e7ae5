import SchedulerOperator.Proofs.Consistency
import SchedulerOperator.Proofs.StatusPatch
import SchedulerOperator.Proofs.StatusWrites

namespace SchedulerOperator
open Decode Fields

def Json.constantName? : Json → Option String
  | .str s => some s
  | .obj [(s, .null)] => some s
  | _ => none

namespace Decode
variable {α : Type} {known : List (String × α)} {fallback : Option α} {listed : List String}
  {v : Json} {a : α}

theorem name_of_variant (read : (variant known fallback listed).ofJson v = .ok a) :
    ∃ name, v.constantName? = some name ∧ choose known fallback listed name = .ok a := by
  cases v with
  | str name => exact ⟨name, rfl, read⟩
  | obj ms =>
    match ms, read with
    | [], read => cases read
    | [(name, w)], read =>
      obtain ⟨b, chosen, unit⟩ := Plan.bind_eq_ok.mp read
      cases w with
      | null =>
        cases unit
        exact ⟨name, rfl, chosen⟩
      | _ => cases unit
    | _ :: _ :: _, read => cases read
  | _ => cases read

theorem mem_of_choose {name : String} (chosen : choose known fallback listed name = .ok a) :
    (name, a) ∈ known ∨ fallback = some a ∧ Assoc.get? name known = none := by
  unfold choose at chosen
  split at chosen
  next b found =>
    cases chosen
    exact .inl (Assoc.mem_of_get? found)
  next b missing =>
    cases chosen
    exact .inr ⟨rfl, missing⟩
  next => cases chosen

end Decode

theorem ConditionStatus.name_of_read {v : Json} {s : ConditionStatus}
    (read : decoder.ofJson v = .ok s) : v.constantName? = some s.name := by
  obtain ⟨name, same, chosen⟩ := name_of_variant read
  rcases mem_of_choose chosen with mem | ⟨none, _⟩
  · obtain ⟨s', _, pair⟩ := List.mem_map.mp mem
    cases pair
    exact same
  · cases none

def managedNames : List String := managedConditions.map ConditionType.name

theorem ConditionType.unknown_iff (t : ConditionType) : t = .unknown ↔ t.name ∉ managedNames := by
  cases t <;> decide

theorem ConditionType.name_of_read {v : Json} {t : ConditionType}
    (read : decoder.ofJson v = .ok t) :
    ∃ name, v.constantName? = some name ∧ (t = .unknown ↔ name ∉ managedNames) := by
  obtain ⟨name, same, chosen⟩ := name_of_variant read
  refine ⟨name, same, ?_⟩
  rcases mem_of_choose chosen with mem | ⟨fallback, missing⟩
  · obtain ⟨t', _, pair⟩ := List.mem_map.mp mem
    cases pair
    exact t.unknown_iff
  · cases fallback
    refine ⟨fun _ mem => ?_, fun _ => rfl⟩
    obtain ⟨u, _, rfl⟩ := List.mem_map.mp mem
    cases u <;> cases missing

namespace Fields
variable {α : Type} {dec : Decoder α} {write : α → Json} {name : String}
  {ms : List (String × Json)}

/-- What a member says; `null` says nothing. -/
def part? (name : String) (ms : List (String × Json)) : Option Json :=
  (Assoc.get? name ms).filter fun v => !v.isNull

theorem part_of_required {a : α} (read : (required name dec).ofMembers ms = .ok a) :
    ∃ v, Assoc.get? name ms = some v ∧ dec.ofJson v = .ok a := by
  cases found : Assoc.get? name ms with
  | none =>
    simp only [required, field, found] at read
    cases read
  | some v =>
    simp only [required, field, found] at read
    exact ⟨v, rfl, read⟩

theorem part_of_optional {o : Option α} (faithful : ∀ v a, dec.ofJson v = .ok a → v = write a)
    (read : (Fields.optional name dec).ofMembers ms = .ok o) : part? name ms = o.map write := by
  unfold part?
  cases found : Assoc.get? name ms with
  | none =>
    simp only [Fields.optional, defaulted, field, found] at read
    cases read
    rfl
  | some v =>
    simp only [Fields.optional, defaulted, field, found] at read
    rcases of_optional read with ⟨rfl, rfl⟩ | ⟨there, a, rfl, taken⟩
    · rfl
    · have kept : v.isNull = false := by cases v <;> first | rfl | exact absurd rfl there
      rw [Option.filter_some, kept]
      exact congrArg some (faithful v a taken)

theorem part_of_written {o : Option α} (shown : ∀ a, (write a).isNull = false)
    (found : Assoc.get? name ms = o.map write) : part? name ms = o.map write := by
  rw [part?, found]
  cases o with
  | none => rfl
  | some a => rw [Option.map_some, Option.filter_some, shown a]; rfl

theorem text_faithful (v : Json) (s : String) (read : text.ofJson v = .ok s) : v = .str s := by
  cases v with
  | str t =>
    cases read
    rfl
  | _ => cases read

def named? (name : String) (ms : List (String × Json)) : Option String :=
  (Assoc.get? name ms).bind Json.constantName?

end Fields

namespace Condition

/-- `v` says all that `c` holds, in whatever form it is written. -/
structure Shows (c : Condition) (ms : List (String × Json)) : Prop where
  type : ∃ name, named? "type" ms = some name ∧ (c.type_ = .unknown ↔ name ∉ managedNames)
  status : named? "status" ms = some c.status.name
  reason : part? "reason" ms = c.reason.map .str
  message : part? "message" ms = c.message.map .str
  lastTransitionTime : part? "lastTransitionTime" ms = c.lastTransitionTime.map .str
  observedGeneration : part? "observedGeneration" ms = c.observedGeneration.map .word

theorem positional : fields.Positional :=
  .apply (.apply (.apply (.apply (.apply (.apply (positional_constant _) positional_field)
    positional_field) positional_field) positional_field) positional_field) positional_field

theorem shows_of_read {c : Condition} {v : Json} (read : decoder.ofJson v = .ok c) :
    c.Shows (fields.membersOf v) := by
  have ofMembers := ofMembers_of_read positional (by decide) read
  obtain ⟨_, generation, toTime, readGeneration, rfl⟩ := apply_ofMembers.mp ofMembers
  obtain ⟨_, time, toMessage, readTime, rfl⟩ := apply_ofMembers.mp toTime
  obtain ⟨_, message, toReason, readMessage, rfl⟩ := apply_ofMembers.mp toMessage
  obtain ⟨_, reason, toStatus, readReason, rfl⟩ := apply_ofMembers.mp toReason
  obtain ⟨_, status, toType, readStatus, rfl⟩ := apply_ofMembers.mp toStatus
  obtain ⟨_, type, start, readType, rfl⟩ := apply_ofMembers.mp toType
  cases start
  obtain ⟨w, here, type⟩ := part_of_required readType
  obtain ⟨w', here', status⟩ := part_of_required readStatus
  obtain ⟨name, same, managed⟩ := ConditionType.name_of_read type
  exact
    { type := ⟨name, by rw [named?, here]; exact same, managed⟩
      status := by rw [named?, here']; exact ConditionStatus.name_of_read status
      reason := part_of_optional text_faithful readReason
      message := part_of_optional text_faithful readMessage
      lastTransitionTime := part_of_optional text_faithful readTime
      observedGeneration := part_of_optional (fun _ _ => of_int64) readGeneration }

theorem get?_toJson (c : Condition) (k : String) : c.toJson.get? k =
    (Assoc.get? k [("lastTransitionTime", c.lastTransitionTime.map .str),
      ("message", c.message.map .str), ("observedGeneration", c.observedGeneration.map .word),
      ("reason", c.reason.map .str), ("status", some (.str c.status.name)),
      ("type", some (.str c.type_.name))]).join := by
  refine Json.get?_present ?_ k
  change ["lastTransitionTime", "message", "observedGeneration", "reason", "status",
    "type"].Pairwise (· < ·)
  decide

theorem shows_toJson (c : Condition) : c.Shows c.toJson.members where
  type := by
    refine ⟨c.type_.name, ?_, c.type_.unknown_iff⟩
    exact congrArg (Option.bind · Json.constantName?) (get?_toJson c "type")
  status := congrArg (Option.bind · Json.constantName?) (get?_toJson c "status")
  reason := part_of_written (fun _ => rfl) (get?_toJson c "reason")
  message := part_of_written (fun _ => rfl) (get?_toJson c "message")
  lastTransitionTime := part_of_written (fun _ => rfl) (get?_toJson c "lastTransitionTime")
  observedGeneration := part_of_written (fun _ => rfl) (get?_toJson c "observedGeneration")

def isForeign (v : Json) : Bool :=
  (named? "type" (fields.membersOf v)).any fun name => !managedNames.contains name

theorem Shows.isForeign_iff {c : Condition} {v : Json} (told : c.Shows (fields.membersOf v)) :
    isForeign v = true ↔ c.type_ = .unknown := by
  obtain ⟨name, type, unknown⟩ := told.type
  rw [isForeign, type, unknown]
  simp

/-- `w` says what `v` says as a condition, but for the type. -/
structure CarriedAs (v w : Json) : Prop where
  type : w.get? "type" = some (.str "Unknown")
  status : named? "status" w.members = named? "status" (fields.membersOf v)
  others : ∀ k ∈ ["reason", "message", "lastTransitionTime", "observedGeneration"],
    part? k w.members = part? k (fields.membersOf v)
  only : ∀ k, k ∉ fields.names → w.get? k = none

theorem Shows.carriedAs {c : Condition} {v : Json} (told : c.Shows (fields.membersOf v))
    (unknown : c.type_ = .unknown) : CarriedAs v c.toJson where
  type := by
    rw [get?_toJson]
    exact congrArg (fun t : ConditionType => some (Json.str t.name)) unknown
  status := c.shows_toJson.status.trans told.status.symm
  others := by
    have written := c.shows_toJson
    simp only [List.forall_mem_cons, List.not_mem_nil, false_implies, implies_true, and_true]
    exact ⟨written.reason.trans told.reason.symm, written.message.trans told.message.symm,
      written.lastTransitionTime.trans told.lastTransitionTime.symm,
      written.observedGeneration.trans told.observedGeneration.symm⟩
  only k unnamed := by
    have names : fields.names = ["type", "status", "reason", "message", "lastTransitionTime",
      "observedGeneration"] := rfl
    rw [get?_toJson]
    simp only [names, List.mem_cons, List.not_mem_nil, or_false, not_or] at unnamed
    simp [Assoc.get?, unnamed]

end Condition

namespace SchedulerStatus

def conditionsIn (v : Json) : List Json :=
  ((Assoc.get? "conditions" (fields.membersOf v)).bind Json.arr?).getD []

def foreignIn (v : Json) : List Json := (conditionsIn v).filter Condition.isForeign

def foreign (s : SchedulerStatus) : List Condition :=
  s.conditions.filter fun c => c.type_ = .unknown

theorem conditions_of_read {s : SchedulerStatus} {v : Json} (read : decoder.ofJson v = .ok s) :
    List.Forall₂ (fun w c => Condition.decoder.ofJson w = .ok c) (conditionsIn v) s.conditions := by
  have positional : fields.Positional := (agrees fun _ => Or.inl rfl).positional
  have ofMembers := ofMembers_of_read positional (by decide) read
  obtain ⟨_, _, toMessage, _, rfl⟩ := apply_ofMembers.mp ofMembers
  obtain ⟨_, _, toValidated, _, rfl⟩ := apply_ofMembers.mp toMessage
  obtain ⟨_, _, toPool, _, rfl⟩ := apply_ofMembers.mp toValidated
  obtain ⟨_, _, toGateway, _, rfl⟩ := apply_ofMembers.mp toPool
  obtain ⟨_, _, toPicker, _, rfl⟩ := apply_ofMembers.mp toGateway
  obtain ⟨_, _, toModel, _, rfl⟩ := apply_ofMembers.mp toPicker
  obtain ⟨_, _, toConditions, _, rfl⟩ := apply_ofMembers.mp toModel
  obtain ⟨_, cs, toPhase, taken, rfl⟩ := apply_ofMembers.mp toConditions
  obtain ⟨_, _, start, _, rfl⟩ := apply_ofMembers.mp toPhase
  cases start
  change List.Forall₂ _ (((Assoc.get? "conditions" _).bind Json.arr?).getD []) cs
  cases found : Assoc.get? "conditions" (fields.membersOf v) with
  | none =>
    simp only [defaulted, field, found] at taken
    cases taken
    exact .nil
  | some w =>
    simp only [defaulted, field, found] at taken
    cases w with
    | arr items => exact itemsOf_iff.mp taken
    | _ => cases taken

theorem foreign_of_read {s : SchedulerStatus} {v : Json} (read : decoder.ofJson v = .ok s) :
    List.Forall₂ (fun w c => Condition.CarriedAs w c.toJson) (foreignIn v) s.foreign := by
  have filtered : List.Forall₂ (fun w c => Condition.decoder.ofJson w = .ok c)
      (foreignIn v) s.foreign := by
    refine List.rel_filter ?_ (conditions_of_read read)
    intro w c taken
    exact (Condition.shows_of_read taken).isForeign_iff.trans decide_eq_true_iff.symm
  have unmanaged : ∀ w ∈ foreignIn v, Condition.isForeign w = true :=
    fun w mem => (List.mem_filter.mp mem).2
  refine ((List.forall₂_and_left _ _).mpr ⟨unmanaged, filtered⟩).imp ?_
  rintro w c ⟨unlisted, taken⟩
  have told := Condition.shows_of_read taken
  exact told.carriedAs (told.isForeign_iff.mp unlisted)

theorem foreignIn_update (s : SchedulerStatus) :
    foreignIn s.update = s.foreign.map Condition.toJson := by
  obtain ⟨ms, same, _⟩ := ordered_update s
  have conditions : conditionsIn s.update = s.conditions.map Condition.toJson := by
    have found := update_conditions s
    rw [same] at found ⊢
    change ((Assoc.get? "conditions" ms).bind Json.arr?).getD [] = _
    rw [show Assoc.get? "conditions" ms = _ from found]
    rfl
  rw [foreignIn, conditions, List.filter_map, foreign]
  congr 1
  refine List.filter_congr fun c _ => Bool.eq_iff_iff.mpr ?_
  rw [decide_eq_true_eq]
  exact Condition.Shows.isForeign_iff (v := c.toJson) c.shows_toJson

end SchedulerStatus

theorem StatusBoard.filter_putCondition {generation : Option Int64} {t : ConditionType}
    {status : ConditionStatus} {reason message now : String} (managed : t ≠ .unknown)
    (conditions : List Condition) :
    (putCondition generation t status reason message now conditions).filter
      (fun c => c.type_ = .unknown) = conditions.filter (fun c => c.type_ = .unknown) := by
  induction conditions with
  | nil => simp [putCondition, managed]
  | cons c rest ih =>
    by_cases same : c.type_ = t
    · simp [putCondition, renew, same, managed]
    · simp only [putCondition, if_neg same, List.filter_cons, ih]

def Note.Managed (n : Note) : Prop := n.topic ≠ .condition .unknown

theorem Note.Managed.foreign_put {n : Note} (managed : n.Managed) (generation : Option Int64)
    (now : String) (s : SchedulerStatus) : (n.put generation now s).foreign = s.foreign := by
  cases n with
  | condition t status reason message =>
    exact StatusBoard.filter_putCondition (fun same => managed (congrArg Topic.condition same)) _
  | _ => rfl

theorem Entered.foreign {generation : Option Int64} {notes : List Note} {s t : SchedulerStatus}
    (entered : Entered generation notes s t) (managed : ∀ n ∈ notes, n.Managed) :
    t.foreign = s.foreign := by
  induction entered with
  | nil s => rfl
  | cons n now more ih =>
    obtain ⟨here, later⟩ := List.forall_mem_cons.mp managed
    rw [ih later, here.foreign_put]

namespace Engine
open Pass
variable {g : Engine} {plan : Plan} {r : InferenceScheduler} {k : RootKey}

theorem settled_managed (k : ChildKind) (sample : Except StoreError Replicas) :
    ∀ n ∈ (settled k sample).2, n.Managed := by
  cases k <;> cases sample <;>
    simp [settled, replicaNotes, failureNotes, failureCondition, Note.Managed, Note.topic]

theorem failureNotes_managed (k : ChildKind) (message : String) :
    ∀ n ∈ failureNotes k message, n.Managed := by
  cases k <;> simp [failureNotes, failureCondition, Note.Managed, Note.topic]

theorem Builds.managed {kinds : List ChildKind} {turns : List Turn}
    {out : Except ReconcileError Requeue} {notes : List Note}
    (builds : g.Builds plan kinds turns out notes) : ∀ n ∈ notes, n.Managed := by
  induction builds with
  | complete => simp [Note.Managed, Note.topic]
  | failed => exact failureNotes_managed _ _
  | waits unready =>
    refine List.forall_mem_append.mpr ⟨settled_managed _ _, ?_⟩
    simp [Note.Managed, Note.topic]
  | further written ready more ih => exact List.forall_mem_append.mpr ⟨settled_managed _ _, ih⟩

theorem Aligns.managed {turns : List Turn} {out : Except ReconcileError Requeue}
    {notes : List Note} (aligns : g.Aligns r turns out notes) : ∀ n ∈ notes, n.Managed := by
  cases aligns with
  | rejected => simp [Note.Managed, Note.topic]
  | unchecked => simp [accepted, Note.Managed, Note.topic]
  | missing => simp [accepted, preflightNotes, Note.Managed, Note.topic]
  | children resolved quiet builds =>
    refine List.forall_mem_append.mpr ⟨?_, builds.managed⟩
    simp [accepted, preflightNotes, Note.Managed, Note.topic]

theorem Stores.foreign {before : List Turn} {status : SchedulerStatus}
    (stores : g.Stores r before status) : status.foreign = (r.status.getD {}).foreign := by
  cases stores with
  | observed => rfl
  | aligned alive stored same aligns entered => exact entered.foreign aligns.managed
  | withdrawn => rfl

/-- What a pass writes for a root still tells each foreign condition that the root was read
with, one after the other, with all that it says but its type. -/
theorem foreign_conditions_stay {v : Json} {stored : SchedulerStatus}
    (read : SchedulerStatus.decoder.ofJson v = .ok stored) {trace : List Turn}
    {result : Except ReconcileError Requeue}
    (run : Runs (g.reconcile k.namespace_ k.name) trace result) (snapshot : Snapshot k r trace)
    (held : r.status = some stored) {t : Turn} (made : t ∈ trace) {ns name : String}
    {status : SchedulerStatus} (wrote : t.call = .writeStatus ns name status) :
    List.Forall₂ Condition.CarriedAs (SchedulerStatus.foreignIn v)
      (SchedulerStatus.foreignIn status.update) := by
  obtain ⟨front, back, rfl⟩ := List.append_of_mem made
  have may := (reconcile_stores g k).at_call run rfl
  rw [List.nil_append, wrote] at may
  obtain ⟨r', first, _, stores⟩ := may
  obtain rfl : r = r' := snapshot.unique (first.append _)
  have kept : status.foreign = stored.foreign := by
    rw [stores.foreign, held]
    rfl
  rw [SchedulerStatus.foreignIn_update, kept, List.forall₂_map_right_iff]
  exact SchedulerStatus.foreign_of_read read

def drainedJson : Json :=
  .obj [("conditions", .arr [.obj [("message", .str "seen"), ("reason", .null),
    ("severity", .str "High"), ("status", .str "True"), ("type", .str "Drained")]])]

def drainedStatus : SchedulerStatus where
  conditions := [{ type_ := .unknown, status := .true_, message := some "seen" }]

def drainedRoot : InferenceScheduler where
  metadata :=
    { name := some "demo", namespace_ := some "default", generation := some 1,
      finalizers := some [finalizerMarker], deletionTimestamp := some "2024-01-01T00:00:00Z" }
  spec := { modelServer := { modelName := "m", hfTokenSecretName := "s" } }
  status := some drainedStatus

def withdrawnStatus : SchedulerStatus :=
  { drainedStatus with phase := some .finalizing, observedGeneration := some 1 }

def withdrawnTurns : List Turn :=
  [⟨.getRoot "default" "demo", .ok (some drainedRoot)⟩,
   ⟨.writeStatus "default" "demo" withdrawnStatus, .error (.notFound "demo")⟩]

theorem withdrawnTurns_run :
    Runs ((Engine.mk .builtin {}).reconcile "default" "demo") withdrawnTurns (.ok .never) := by
  refine Runs.call _ ?_
  refine Runs.call _ ?_
  exact .done _

theorem drained_condition_stays :
    (SchedulerStatus.decoder.ofJson drainedJson = .ok drainedStatus ∧
      Runs ((Engine.mk .builtin {}).reconcile "default" "demo") withdrawnTurns (.ok .never) ∧
      Snapshot ⟨"default", "demo"⟩ drainedRoot withdrawnTurns ∧
      drainedRoot.status = some drainedStatus ∧
      ∃ t ∈ withdrawnTurns, t.call = .writeStatus "default" "demo" withdrawnStatus) ∧
    (SchedulerStatus.foreignIn drainedJson).length = 1 ∧
    List.Forall₂ Condition.CarriedAs (SchedulerStatus.foreignIn drainedJson)
      (SchedulerStatus.foreignIn withdrawnStatus.update) := by
  have read : SchedulerStatus.decoder.ofJson drainedJson = .ok drainedStatus := rfl
  have snapshot : Snapshot ⟨"default", "demo"⟩ drainedRoot withdrawnTurns := ⟨_, rfl⟩
  have made : ⟨.writeStatus "default" "demo" withdrawnStatus, .error (.notFound "demo")⟩ ∈
      withdrawnTurns := List.mem_cons_of_mem _ List.mem_cons_self
  refine ⟨⟨read, withdrawnTurns_run, snapshot, rfl, _, made, rfl⟩, rfl, ?_⟩
  exact foreign_conditions_stay (k := ⟨"default", "demo"⟩) read withdrawnTurns_run snapshot rfl
    made rfl

theorem foreign_type_is_lost :
    SchedulerStatus.decoder.ofJson drainedJson = .ok drainedStatus ∧
    Runs ((Engine.mk .builtin {}).reconcile "default" "demo") withdrawnTurns (.ok .never) ∧
    Snapshot ⟨"default", "demo"⟩ drainedRoot withdrawnTurns ∧
    drainedRoot.status = some drainedStatus ∧
    (∃ t ∈ withdrawnTurns, t.call = .writeStatus "default" "demo" withdrawnStatus) ∧
    ∃ v ∈ SchedulerStatus.foreignIn drainedJson,
      ∀ w ∈ SchedulerStatus.conditionsIn withdrawnStatus.update,
        ∀ k ∈ ["type", "severity", "reason"], w.get? k ≠ v.get? k := by
  refine ⟨rfl, withdrawnTurns_run, ⟨_, rfl⟩, rfl,
    ⟨_, List.mem_cons_of_mem _ List.mem_cons_self, rfl⟩, _, List.mem_cons_self, ?_⟩
  have written : SchedulerStatus.conditionsIn withdrawnStatus.update =
      [.obj [("message", .str "seen"), ("status", .str "True"), ("type", .str "Unknown")]] := rfl
  rw [written]
  simp [Json.get?, Json.members, Assoc.get?]

end Engine
end SchedulerOperator
