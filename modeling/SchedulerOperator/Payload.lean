import SchedulerOperator.Plan
import SchedulerOperator.Text.Label

/-!
What the child objects have in common: where one lives, who owns it, its whole wire
object, and the label sets that tie selectors to pods. The owner travels beside the
payload and is attached when the object is written.
-/
namespace SchedulerOperator

structure ChildObject where
  resource : ResourceType
  name : String
  namespace_ : String
  owner : OwnerReference
  payload : Json
  deriving Repr

abbrev Labels := List (String × String)

namespace Payload

def metadata (plan : Plan) (k : ChildKind) (labels : Option Labels) : Json :=
  .present
    [("labels", labels.map .textMap),
     ("name", some (.str (k.childName plan.name))),
     ("namespace", some (.str plan.namespace_))]

def child (plan : Plan) (t : ResourceType) (k : ChildKind) (payload : Json) :
    ChildObject where
  resource := t
  name := k.childName plan.name
  namespace_ := plan.namespace_
  owner := plan.owner
  payload := payload

def object (t : ResourceType) (members : List (String × Option Json)) : Json :=
  .present (("apiVersion", some (.str t.builtinApi.apiVersion)) ::
    ("kind", some (.str t.builtinApi.kind)) :: members)

def fields (ms : List (String × Json)) : Json := .obj ms

def instanceLabel : String := "app.kubernetes.io/instance"
def componentLabel : String := "app.kubernetes.io/component"
def nameLabel : String := "app.kubernetes.io/name"

def containerPort (name : String) (port : Int) : Json :=
  fields [("containerPort", .int port), ("name", .str name), ("protocol", .str "TCP")]

def servicePort (name : String) (port : Int) : Json :=
  fields [("name", .str name), ("port", .int port), ("protocol", .str "TCP"),
    ("targetPort", .int port)]

def selectorOf (labels : Labels) : Json := fields [("matchLabels", .textMap labels)]

def deploymentSpec (replicas : Int) (selector podLabels : Labels) (podSpec : Json) : Json :=
  fields
    [("replicas", .int replicas),
     ("selector", selectorOf selector),
     ("template", fields
       [("metadata", fields [("labels", .textMap podLabels)]), ("spec", podSpec)])]

def serviceSpec (ports : List Json) (selector : Labels) (exposure : String) : Json :=
  fields [("ports", .arr ports), ("selector", .textMap selector), ("type", .str exposure)]

end Payload
end SchedulerOperator
