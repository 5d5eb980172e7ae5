import SchedulerOperator.Scheduler.Status

namespace SchedulerOperator

structure InferenceScheduler where
  metadata : ObjectMeta
  spec : SchedulerSpec
  status : Option SchedulerStatus
  deriving Repr, Inhabited

namespace InferenceScheduler
open Fields

def group : String := "llm.llm-d.io"
def version : String := "v1alpha1"
def apiVersion : String := "llm.llm-d.io/v1alpha1"
def kind : String := "InferenceScheduler"
def plural : String := "inferenceschedulers"

def fields : Fields InferenceScheduler :=
  InferenceScheduler.mk <$> required "metadata" ObjectMeta.decoder
    <*> required "spec" SchedulerSpec.decoder
    <*> optionalMember "status" SchedulerStatus.decoder

def decoder : Decoder InferenceScheduler := read kind fields

def members (r : InferenceScheduler) : List (String × Option Json) :=
  [("apiVersion", some (.str apiVersion)), ("kind", some (.str kind)),
   ("metadata", some r.metadata.toJson), ("spec", some r.spec.toJson),
   ("status", r.status.map SchedulerStatus.toJson)]

def toJson (r : InferenceScheduler) : Json := .present r.members

def name (r : InferenceScheduler) : String := r.metadata.anyName
def namespaceOr (r : InferenceScheduler) (fallback : String) : String :=
  r.metadata.namespace_.getD fallback
def finalizers (r : InferenceScheduler) : List String := r.metadata.finalizerList

def ownerReference? (r : InferenceScheduler) : Option OwnerReference :=
  r.metadata.uid.map fun uid =>
    { apiVersion := apiVersion, kind := kind, name := r.name, uid := uid,
      controller := some true, blockOwnerDeletion := some true }

end InferenceScheduler
end SchedulerOperator
