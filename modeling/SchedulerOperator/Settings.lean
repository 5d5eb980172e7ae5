import SchedulerOperator.Engine

namespace SchedulerOperator

structure RetryDelays where
  transient : Nat
  conflict : Nat
  permanent : Nat
  deriving DecidableEq, Repr

structure OperatorSettings where
  httpPort : Nat
  watchNamespace : Option String
  cleanupMode : String
  timing : PassDelays
  retry : RetryDelays
  deriving DecidableEq, Repr

inductive SettingsError where
  | unreadable (variable_ : String)
  deriving DecidableEq, Repr

def SettingsError.message : SettingsError → String
  | .unreadable name => "Failed to parse environment variable " ++ name

namespace OperatorSettings

abbrev Environment := List (String × String)

def natural? (s : String) : Option Nat :=
  let digits := match s.toList with
    | '+' :: rest => rest
    | cs => cs
  if digits.isEmpty || !digits.all Char.isDigit then none
  else some (digits.foldl (fun n d => n * 10 + (d.toNat - 48)) 0)

def number (env : Environment) (bits : Nat) (name : String) (unset : Nat) :
    Except SettingsError Nat :=
  match Assoc.get? name env with
  | none => .ok unset
  | some s =>
    match natural? s with
    | some n => if n < twoTo bits then .ok n else .error (.unreadable name)
    | none => .error (.unreadable name)

def ofEnvironment (env : Environment) : Except SettingsError OperatorSettings := do
  let httpPort ← number env 16 "HTTP_PORT" 8088
  let prerequisitesMissing ← number env 64 "INFSCHED_REQUEUE_PREREQ_SECS" 60
  let notReady ← number env 64 "INFSCHED_REQUEUE_NOT_READY_SECS" 30
  let steady ← number env 64 "INFSCHED_REQUEUE_STEADY_SECS" 300
  let transient ← number env 64 "INFSCHED_RETRY_TRANSIENT_SECS" 5
  let conflict ← number env 64 "INFSCHED_RETRY_CONFLICT_SECS" 1
  let permanent ← number env 64 "INFSCHED_RETRY_PERMANENT_SECS" 300
  return {
    httpPort := httpPort
    watchNamespace := Assoc.get? "INFSCHED_WATCH_NAMESPACE" env
    cleanupMode := (Assoc.get? "INFSCHED_CLEANUP_MODE" env).getD "cascade"
    timing := ⟨prerequisitesMissing, notReady, steady⟩
    retry := ⟨transient, conflict, permanent⟩ }

/-- A blank namespace means all of them, as if it was not set. -/
def watched (c : OperatorSettings) : Option String :=
  (c.watchNamespace.map Text.trim).filter fun ns => !ns.isEmpty

def passSettings (c : OperatorSettings) : Except String PassSettings :=
  match CleanupPolicy.ofText c.cleanupMode with
  | .ok policy => .ok ⟨c.timing, policy⟩
  | .error why => .error ("INFSCHED_CLEANUP_MODE: " ++ why)

def httpAddress (c : OperatorSettings) : String := "0.0.0.0:" ++ toString c.httpPort

end OperatorSettings

def RetryDelays.delay (r : RetryDelays) : ErrorClass → Nat
  | .transient => r.transient
  | .conflict => r.conflict
  | .permanent => r.permanent

end SchedulerOperator
