import SchedulerOperator.ApiServer.Script
import SchedulerOperator.Settings

namespace SchedulerOperator.Controller

def owned : List ResourceType :=
  [.deployment, .service, .serviceAccount, .configMap, .role, .roleBinding]

def watchedApis : List ApiResource := ApiServer.rootApi :: owned.map ResourceType.builtinApi

def listUris (watched : Option String) : List String :=
  watchedApis.map fun api =>
    ApiServer.collection api watched ++ "?" ++ ApiServer.limitQuery (some 500)

/-- One pass per root as long as the server has answers left, and the roots that are to be
looked at again. A pass that has begun goes on to its end. -/
def round (g : Engine) (s : Store Script) :
    List InferenceScheduler → Script → List InferenceScheduler × Script
  | [], script => ([], script)
  | r :: rest, script =>
    if script.answers.isEmpty then ([], script)
    else
      let (outcome, script) := (g.reconcile (r.namespaceOr "default") r.name).run s script
      let (again, script) := round g s rest script
      match outcome with
      | .ok .never => (again, script)
      | _ => (r :: again, script)

def rounds (g : Engine) (s : Store Script) : Nat → List InferenceScheduler → Script → Script
  | 0, _, script => script
  | n + 1, roots, script =>
    let (again, script) := round g s roots script
    rounds g s n again script

/-- A run against a scripted server that shuts down when the script is used up. A pass that
reaches the server takes at least one answer, so there are no more rounds than answers. -/
def run (settings : PassSettings) (now : String) (roots : List InferenceScheduler)
    (script : Script) : Script :=
  rounds ⟨.builtin, settings⟩ (Script.store false now) script.answers.length roots script

end SchedulerOperator.Controller
