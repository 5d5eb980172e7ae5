import Mathlib.Algebra.Order.Field.Basic
import Mathlib.Algebra.Order.Field.Rat
import Mathlib.Data.List.TakeWhile
import SchedulerOperator.Proofs.Codec
import SchedulerOperator.Proofs.Selectors

/-!
What is asked of a root is a list of demands in a fixed order, each with its error. The demands on
doubles are told by the numbers that these stand for, so that nothing which is not a number meets
them and the negative zero does.
-/
namespace SchedulerOperator

namespace Double

def value (x : Double) : ℚ := (if x.isNegative then -1 else 1) * (x.ratio.1 / x.ratio.2)

theorem magnitude_eq (x : Double) :
    x.word % 2 ^ 63 = x.exponentField * 2 ^ 52 + x.fractionField ∧
      x.exponentField < 2 ^ 11 ∧ x.fractionField < 2 ^ 52 := by
  have bound : x.word < 2 ^ 64 := x.bits.toNat_lt
  simp only [exponentField, fractionField, twoTo_eq]
  omega

theorem significand_eq_zero (x : Double) : x.significand = 0 ↔ x.word % 2 ^ 63 = 0 := by
  have parts := x.magnitude_eq
  unfold significand
  split
  · omega
  · simp only [twoTo_eq]
    omega

theorem ratio_nonneg (x : Double) : (0 : ℚ) ≤ x.ratio.1 / x.ratio.2 :=
  div_nonneg (Nat.cast_nonneg _) (Nat.cast_nonneg _)

theorem ratio_pos (x : Double) : 0 < x.ratio.2 := Nat.two_pow_pos _

theorem ratio_eq_zero (x : Double) : (x.ratio.1 / x.ratio.2 : ℚ) = 0 ↔ x.word % 2 ^ 63 = 0 := by
  have positive : (x.ratio.2 : ℚ) ≠ 0 := Nat.cast_ne_zero.mpr x.ratio_pos.ne'
  rw [div_eq_zero_iff, or_iff_left positive, Nat.cast_eq_zero, ← significand_eq_zero]
  change x.significand * 2 ^ x.scale.toNat = 0 ↔ _
  simp

theorem value_nonneg (x : Double) : 0 ≤ x.value ↔ 0 ≤ x.rank := by
  have nonneg := x.ratio_nonneg
  unfold rank value
  split
  · have zero : (0 : ℚ) ≤ -1 * (x.ratio.1 / x.ratio.2) ↔ x.word % 2 ^ 63 = 0 := by
      rw [neg_one_mul, neg_nonneg, ← x.ratio_eq_zero]
      exact ⟨fun below => le_antisymm below nonneg, le_of_eq⟩
    rw [zero, twoTo_eq]
    omega
  · rw [one_mul, iff_true_left nonneg]
    exact Int.natCast_nonneg _

theorem magnitude_le_one (x : Double) :
    x.word % 2 ^ 63 ≤ 1023 * 2 ^ 52 ↔ x.ratio.1 ≤ x.ratio.2 := by
  obtain ⟨parts, _, fraction⟩ := x.magnitude_eq
  rw [parts]
  simp only [ratio, significand, scale, twoTo_eq]
  generalize x.exponentField = e, x.fractionField = f at fraction
  by_cases least : e = 0
  · have unit : (((max e 1 : Nat) : Int) - 1075).toNat = 0 := by omega
    have places : 52 ≤ (-(((max e 1 : Nat) : Int) - 1075)).toNat := by omega
    have small := Nat.pow_le_pow_right Nat.two_pos places
    rw [if_pos least, unit, least]
    rw [least] at small
    omega
  · have unit : (((max e 1 : Nat) : Int) - 1075).toNat = e - 1075 := by omega
    have places : (-(((max e 1 : Nat) : Int) - 1075)).toNat = 1075 - e := by omega
    rw [if_neg least, unit, places]
    rcases Nat.lt_trichotomy e 1023 with below | rfl | above
    · have small : 2 ^ 53 ≤ 2 ^ (1075 - e) := Nat.pow_le_pow_right (by decide) (by omega)
      have none : e - 1075 = 0 := by omega
      rw [none]
      omega
    · omega
    · have large : 2 ^ (1075 - e) ≤ 2 ^ 51 := Nat.pow_le_pow_right (by decide) (by omega)
      have more : 2 ^ 52 + f ≤ (2 ^ 52 + f) * 2 ^ (e - 1075) :=
        Nat.le_mul_of_pos_right _ (Nat.two_pow_pos _)
      omega

theorem value_le_one (x : Double) : x.value ≤ 1 ↔ x.rank ≤ one.rank := by
  have nonneg := x.ratio_nonneg
  have unit : one.rank = 1023 * 2 ^ 52 := by decide
  rw [unit]
  unfold rank value
  split
  · rw [neg_one_mul, twoTo_eq]
    exact iff_of_true ((neg_nonpos.mpr nonneg).trans zero_le_one) (by omega)
  · rw [one_mul, div_le_one (by exact_mod_cast x.ratio_pos), Nat.cast_le, ← magnitude_le_one,
      twoTo_eq]
    omega

theorem not_isNaN_of_finite {x : Double} (finite : x.isFinite = true) : x.isNaN = false := by
  simp only [isFinite, isNaN, decide_eq_true_eq, decide_eq_false_iff_not] at finite ⊢
  exact fun nan => finite nan.1

theorem finite_of_rank {x : Double} (low : 0 ≤ x.rank) (high : x.rank ≤ one.rank) :
    x.isFinite = true := by
  obtain ⟨parts, _⟩ := x.magnitude_eq
  have unit : one.rank = 1023 * 2 ^ 52 := by decide
  rw [unit] at high
  have magnitude : x.word % 2 ^ 63 ≤ 1023 * 2 ^ 52 := by
    simp only [rank, twoTo_eq] at low high
    by_cases negative : x.isNegative = true
    · rw [if_pos negative] at low
      omega
    · rw [if_neg negative] at high
      omega
  rw [isFinite, decide_eq_true_eq]
  omega

theorem isFraction_iff (x : Double) :
    Plan.isFraction x = true ↔ x.isFinite = true ∧ 0 ≤ x.value ∧ x.value ≤ 1 := by
  have ends : zero.isNaN = false ∧ one.isNaN = false ∧ zero.rank = 0 := by decide
  rw [x.value_nonneg, x.value_le_one]
  simp only [Plan.isFraction, le, ends, Bool.not_false, Bool.true_and, Bool.and_true,
    Bool.and_eq_true, Bool.not_eq_true', decide_eq_true_eq]
  constructor
  · rintro ⟨⟨_, low⟩, _, high⟩
    exact ⟨finite_of_rank low high, low, high⟩
  · rintro ⟨finite, low, high⟩
    exact ⟨⟨not_isNaN_of_finite finite, low⟩, not_isNaN_of_finite finite, high⟩

theorem isValidWeight_iff (x : Double) :
    Scorer.isValidWeight x = true ↔ x.isFinite = true ∧ 0 ≤ x.value := by
  have ends : zero.isNaN = false ∧ zero.rank = 0 := by decide
  rw [x.value_nonneg, Scorer.isValidWeight, Bool.and_eq_true, and_congr_right_iff]
  intro finite
  simp [lt, ends, not_isNaN_of_finite finite]

end Double

namespace Text

theorem trimChars_eq_nil {p : Char → Bool} {cs : List Char} :
    trimChars p cs = [] ↔ ∀ c ∈ cs, p c = true := by
  rw [trimChars, List.reverse_eq_nil_iff, List.dropWhile_eq_nil_iff]
  constructor
  · intro trimmed c mem
    rw [← List.takeWhile_append_dropWhile (p := p) (l := cs), List.mem_append] at mem
    rcases mem with front | rest
    · exact List.mem_takeWhile_imp front
    · exact trimmed c (List.mem_reverse.mpr rest)
  · intro blank c mem
    exact blank c ((List.dropWhile_sublist p).mem (List.mem_reverse.mp mem))

theorem trim_eq_empty {s : String} : trim s = "" ↔ isBlankText s = true := by
  rw [trim, isBlankText, List.all_eq_true, ← trimChars_eq_nil]
  exact String.ofList_eq_empty_iff

end Text

structure Demand where
  met : Prop
  error : SpecError

/-- The error of the first demand that is not met. -/
inductive FirstUnmet : List Demand → SpecError → Prop where
  | here {d : Demand} {rest : List Demand} (unmet : ¬ d.met) : FirstUnmet (d :: rest) d.error
  | later {d : Demand} {rest : List Demand} {e : SpecError} (met : d.met)
      (first : FirstUnmet rest e) : FirstUnmet (d :: rest) e

namespace FirstUnmet
variable {ds es : List Demand} {e e' : SpecError}

theorem unmet (first : FirstUnmet ds e) : ¬ ∀ d ∈ ds, d.met := by
  induction first with
  | here unmet => exact fun all => unmet (all _ List.mem_cons_self)
  | later _ _ ih => exact fun all => ih fun d mem => all d (List.mem_cons_of_mem _ mem)

theorem unique (first : FirstUnmet ds e) (first' : FirstUnmet ds e') : e = e' := by
  induction first with
  | here unmet =>
    cases first' with
    | here _ => rfl
    | later met _ => exact absurd met unmet
  | later met _ ih =>
    cases first' with
    | here unmet => exact absurd met unmet
    | later _ rest => exact ih rest

theorem append (first : FirstUnmet ds e) : FirstUnmet (ds ++ es) e := by
  induction first with
  | here unmet => exact .here unmet
  | later met _ ih => exact .later met ih

theorem after (met : ∀ d ∈ ds, d.met) (first : FirstUnmet es e) : FirstUnmet (ds ++ es) e := by
  induction ds with
  | nil => exact first
  | cons d rest ih =>
    exact .later (met d List.mem_cons_self) (ih fun d mem => met d (List.mem_cons_of_mem _ mem))

end FirstUnmet

/-- A computation that ends well exactly if the demands are met, with a result that is as told,
and else with the error of the first one that is not. -/
structure Checks {α : Type} (ds : List Demand) (x : Except SpecError α) (told : α → Prop) :
    Prop where
  met : ∀ a, x = .ok a → (∀ d ∈ ds, d.met) ∧ told a
  unmet : ∀ e, x = .error e → FirstUnmet ds e

namespace Checks
variable {α β : Type} {ds es : List Demand} {x : Except SpecError α} {f : α → Except SpecError β}
  {told : α → Prop} {tells : β → Prop}

theorem done {a : α} (holds : told a) : Checks [] (.ok a) told where
  met b same := by
    cases same
    exact ⟨nofun, holds⟩
  unmet := nofun

theorem bind (first : Checks ds x told) (next : ∀ a, told a → Checks es (f a) tells) :
    Checks (ds ++ es) (x >>= f) tells := by
  cases done : x with
  | error e =>
    refine ⟨nofun, fun e' same => ?_⟩
    cases same
    exact (first.unmet e done).append
  | ok a =>
    obtain ⟨met, holds⟩ := first.met a done
    have rest := next a holds
    refine ⟨fun b same => ?_, fun e failed => (rest.unmet e failed).after met⟩
    obtain ⟨more, holds⟩ := rest.met b same
    exact ⟨fun d mem => (List.mem_append.mp mem).elim (met d) (more d), holds⟩

theorem guarded {d : Demand} {p : Prop} [Decidable p] (reads : p ↔ d.met)
    (next : Checks ds x told) : Checks (d :: ds) (if p then x else .error d.error) told := by
  split
  next holds =>
    refine ⟨fun a done => ?_, fun e failed => .later (reads.mp holds) (next.unmet e failed)⟩
    obtain ⟨met, told⟩ := next.met a done
    exact ⟨fun c mem => (List.mem_cons.mp mem).elim (· ▸ reads.mp holds) (met c), told⟩
  next fails =>
    refine ⟨nofun, fun e same => ?_⟩
    cases same
    exact .here fun met => fails (reads.mpr met)

theorem refused {d : Demand} {p : Prop} [Decidable p] (reads : ¬ p ↔ d.met)
    (next : Checks ds x told) : Checks (d :: ds) (if p then .error d.error else x) told := by
  rw [← ite_not]
  exact guarded reads next

theorem gives {g : α → β} (first : Checks ds x told) (holds : ∀ a, told a → tells (g a)) :
    Checks ds (x >>= fun a => .ok (g a)) tells := by
  have both := first.bind (f := fun a => .ok (g a)) fun a told => .done (holds a told)
  rwa [List.append_nil] at both

theorem ok_iff (checks : Checks ds x told) : (∃ a, x = .ok a) ↔ ∀ d ∈ ds, d.met := by
  refine ⟨fun ⟨a, done⟩ => (checks.met a done).1, fun met => ?_⟩
  cases ended : x with
  | error e => exact absurd met (checks.unmet e ended).unmet
  | ok a => exact ⟨a, rfl⟩

theorem error_iff (checks : Checks ds x told) {e : SpecError} : x = .error e ↔ FirstUnmet ds e := by
  refine ⟨checks.unmet e, fun first => ?_⟩
  cases ended : x with
  | error e' => rw [(checks.unmet e' ended).unique first]
  | ok a => exact absurd (checks.met a ended).1 first.unmet

end Checks

def Scorer.asked (c : PluginConfig) (s : Scorer) : List (Scorer × ScorerPlugin) :=
  ((s.block c).filter fun p => p.enabled ≠ some false).toList.map fun p => (s, p)

def PluginConfig.active (c : PluginConfig) : List (Scorer × ScorerPlugin) :=
  [Scorer.loadAware, .prefixCache, .kvCacheUtilization].flatMap (Scorer.asked c)

/-- What a scorer comes to: the user's parameters win over the defaults, key by key. -/
structure Scorer.Rendered (asked : Scorer × ScorerPlugin) (plan : ScorerPlan) : Prop where
  pluginType : plan.pluginType = asked.1.pluginType
  weight : plan.weight = asked.2.weight.getD asked.1.defaultWeight
  ordered : Assoc.Ascending plan.parameters
  parameters : ∀ k, Assoc.get? k plan.parameters =
    (Assoc.get? k (Assoc.ofList (asked.2.parameters.getD []))).or
      (Assoc.get? k asked.1.defaultParameters)

namespace Demand

def replicas (field : String) (n : Int) : Demand := ⟨1 ≤ n, .replicasOutOfRange field n⟩

def port (field : String) (n : Int) : Demand := ⟨1 ≤ n ∧ n ≤ 65535, .portOutOfRange field n⟩

def weight (asked : Scorer × ScorerPlugin) : Demand :=
  let w := asked.2.weight.getD asked.1.defaultWeight
  ⟨w.isFinite = true ∧ 0 ≤ w.value, .invalidWeight asked.1.pluginType w⟩

def ofRoot (r : InferenceScheduler) : List Demand :=
  [⟨r.name.utf8ByteSize ≤ 46, .nameTooLong r.name 46⟩, ⟨r.metadata.uid.isSome, .missingUid⟩]

def ofServing (s : ModelServerSpec) : List Demand :=
  let gpu := s.gpuMemoryUtilization.getD Plan.defaultGpuMemoryUtilization
  [⟨Text.trim s.modelName ≠ "", .emptyModelName⟩,
   ⟨Text.trim s.hfTokenSecretName ≠ "", .emptySecretName⟩,
   ⟨gpu.isFinite = true ∧ 0 ≤ gpu.value ∧ gpu.value ≤ 1, .gpuMemoryOutOfRange gpu⟩,
   replicas "modelServer.replicas" (s.replicas.getD 2),
   port "modelServer.port" (s.port.getD 8000)]

def ofPicker (s : EndpointPickerSpec) : List Demand :=
  (s.plugins.getD {}).active.map weight ++
    [replicas "endpointPicker.replicas" (s.replicas.getD 1),
     port "endpointPicker.grpcPort" (s.grpcPort.getD 9002)]

def ofGateway (s : GatewaySpec) : List Demand :=
  [port "gateway.listenerPort" (s.listenerPort.getD 80)]

def all (r : InferenceScheduler) : List Demand :=
  ofRoot r ++ (ofServing r.spec.modelServer ++ (ofPicker r.spec.endpointPicker ++
    ofGateway r.spec.gateway))

end Demand

namespace Scorer

theorem config_rendered (s : Scorer) (p : ScorerPlugin) : Rendered (s, p) (s.config p) where
  pluginType := rfl
  weight := rfl
  ordered := by
    refine Assoc.ascending_extend ?_
    cases s with
    | loadAware => exact List.pairwise_singleton _ _
    | prefixCache => exact List.pairwise_singleton _ _
    | kvCacheUtilization => exact List.Pairwise.nil
  parameters k := by rw [config, Assoc.get?_extend, Assoc.get?_ofList]

theorem enabled?_eq (c : PluginConfig) (s : Scorer) :
    s.enabled? c = (s.block c).filter fun p => p.enabled ≠ some false := by
  rw [enabled?]
  congr 1
  funext p
  cases p.enabled with
  | none => rfl
  | some b => cases b <;> rfl

theorem resolve_checks (c : PluginConfig) (s : Scorer) :
    Checks ((s.asked c).map Demand.weight) (s.resolve c)
      fun found => List.Forall₂ Rendered (s.asked c) found.toList := by
  rw [resolve, asked, enabled?_eq]
  cases (s.block c).filter fun p => p.enabled ≠ some false with
  | none => exact .done .nil
  | some p =>
    exact .guarded (Double.isValidWeight_iff _) (.done (.cons (config_rendered s p) .nil))

theorem resolveAll_checks (c : PluginConfig) (ss : List Scorer) :
    Checks ((ss.flatMap (asked c)).map Demand.weight) (resolveAll c ss)
      (List.Forall₂ Rendered (ss.flatMap (asked c))) := by
  induction ss with
  | nil => exact .done .nil
  | cons s rest ih =>
    rw [List.flatMap_cons, List.map_append]
    refine (resolve_checks c s).bind fun found rendered => ?_
    exact ih.gives fun more tail => List.rel_append rendered tail

end Scorer

namespace Plan

theorem requireReplicas_checks (field : String) (n : Int) :
    Checks [Demand.replicas field n] (requireReplicas field n) fun _ => True :=
  .guarded Iff.rfl (.done trivial)

theorem requirePort_checks (field : String) (n : Int) :
    Checks [Demand.port field n] (requirePort field n) fun _ => True :=
  .guarded Iff.rfl (.done trivial)

theorem checkRoot_checks (r : InferenceScheduler) :
    Checks (Demand.ofRoot r) (checkRoot r) fun _ => True := by
  refine .refused Nat.not_lt ?_
  rw [InferenceScheduler.ownerReference?]
  cases r.metadata.uid with
  | none =>
    refine ⟨fun owner done => (by cases done), fun e same => ?_⟩
    cases same
    exact .here Bool.false_ne_true
  | some uid => exact ⟨fun _ _ => ⟨by simp, trivial⟩, fun e failed => by cases failed⟩

theorem resolveServing_checks (s : ModelServerSpec) :
    Checks (Demand.ofServing s) (resolveServing s) fun _ => True := by
  refine .refused Text.trim_eq_empty.not.symm ?_
  refine .refused Text.trim_eq_empty.not.symm ?_
  refine .refused ?_ ?_
  · rw [← Double.isFraction_iff]
    simp
  · exact (requireReplicas_checks _ _).bind fun _ _ => (requirePort_checks _ _).bind fun _ _ =>
      .done trivial

theorem resolvePicker_checks (s : EndpointPickerSpec) :
    Checks (Demand.ofPicker s) (resolvePicker s) fun p =>
      List.Forall₂ Scorer.Rendered (s.plugins.getD {}).active p.scorers := by
  refine (Scorer.resolveAll_checks _ _).bind fun scorers rendered => ?_
  refine (requireReplicas_checks _ _).bind fun _ _ => ?_
  exact (requirePort_checks _ _).gives fun _ _ => rendered

theorem resolveGateway_checks (s : GatewaySpec) :
    Checks (Demand.ofGateway s) (resolveGateway s) fun _ => True :=
  (requirePort_checks _ _).gives fun _ _ => trivial

theorem resolve_checks (r : InferenceScheduler) :
    Checks (Demand.all r) (resolve r) fun plan =>
      List.Forall₂ Scorer.Rendered (r.spec.endpointPicker.plugins.getD {}).active
        plan.endpointPicker.scorers := by
  refine (checkRoot_checks r).bind fun owner _ => ?_
  refine (resolveServing_checks _).bind fun modelServer _ => ?_
  refine (resolvePicker_checks _).bind fun endpointPicker rendered => ?_
  exact (resolveGateway_checks _).gives fun gateway _ => rendered

/-- A root resolves exactly if it meets all demands; else the error is that of the first one that it
does not meet. Where it resolves, the scorers that are asked for are rendered, and no others. -/
theorem resolve_meets_demands (r : InferenceScheduler) :
    ((∃ plan, resolve r = .ok plan) ↔ ∀ d ∈ Demand.all r, d.met) ∧
    (∀ e, resolve r = .error e ↔ FirstUnmet (Demand.all r) e) ∧
    ∀ plan, resolve r = .ok plan →
      List.Forall₂ Scorer.Rendered (r.spec.endpointPicker.plugins.getD {}).active
        plan.endpointPicker.scorers := by
  have checks := resolve_checks r
  exact ⟨checks.ok_iff, fun e => checks.error_iff, fun plan done => (checks.met plan done).2⟩

def rootSharing (gpu : Option Double) (plugins : PluginConfig) : InferenceScheduler :=
  { rootServing "m" with
    spec :=
      { modelServer := { modelName := "m", hfTokenSecretName := "s", gpuMemoryUtilization := gpu }
        endpointPicker := { plugins := some plugins } } }

/-- A block that is switched off is not looked at, whatever its weight, and the negative zero is a
weight. What is no number is no share of the memory, and is told before the weight that is none. -/
theorem zero_weighs_and_nan_is_refused :
    let loadAware : ScorerPlugin :=
      { weight := some .negativeZero,
        parameters := some [("queueThreshold", "64"), ("extra", "x")] }
    let switchedOff : ScorerPlugin := { enabled := some false, weight := some .nan }
    let r := rootSharing none
      { loadAwareScorer := some loadAware, prefixCacheScorer := some switchedOff }
    let r' := rootSharing (some .nan)
      { kvCacheUtilizationScorer := some { weight := some .infinity } }
    (∃ plan, resolve r = .ok plan ∧
      List.Forall₂ Scorer.Rendered [(.loadAware, loadAware)] plan.endpointPicker.scorers) ∧
    resolve r' = .error (.gpuMemoryOutOfRange .nan) := by
  intro loadAware switchedOff r r'
  constructor
  · obtain ⟨plan, resolved⟩ : ∃ plan, resolve r = .ok plan := resolves_of_isOk (by decide +kernel)
    exact ⟨plan, resolved, (resolve_meets_demands r).2.2 plan resolved⟩
  · refine ((resolve_meets_demands r').2.1 _).mpr ?_
    refine .later (by decide +kernel) (.later (by decide) ?_)
    refine .later (by decide +kernel) (.later (by decide +kernel) ?_)
    exact .here fun fraction => absurd fraction.1 (by decide)

end Plan
end SchedulerOperator
