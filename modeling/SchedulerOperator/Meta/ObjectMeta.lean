import SchedulerOperator.Json.Record
import SchedulerOperator.Meta.Time

/-!
Metadata that every stored object carries. Instants are kept as their canonical texts.
Absent members stay absent when written.
-/
namespace SchedulerOperator

structure OwnerReference where
  apiVersion : String
  blockOwnerDeletion : Option Bool
  controller : Option Bool
  kind : String
  name : String
  uid : String
  deriving DecidableEq, Repr, Inhabited

structure ManagedFields where
  apiVersion : Option String
  fieldsType : Option String
  fieldsV1 : Option Json
  manager : Option String
  operation : Option String
  subresource : Option String
  time : Option String
  deriving Repr, Inhabited

structure ObjectMeta where
  annotations : Option (List (String × String)) := none
  creationTimestamp : Option String := none
  deletionGracePeriodSeconds : Option Int64 := none
  deletionTimestamp : Option String := none
  finalizers : Option (List String) := none
  generateName : Option String := none
  generation : Option Int64 := none
  labels : Option (List (String × String)) := none
  managedFields : Option (List ManagedFields) := none
  name : Option String := none
  namespace_ : Option String := none
  ownerReferences : Option (List OwnerReference) := none
  resourceVersion : Option String := none
  selfLink : Option String := none
  uid : Option String := none
  deriving Repr, Inhabited

namespace Decode

def time : Decoder String := leaf "an RFC 3339 formatted date and time string" fun
  | .str s => some ((TimeText.canonical s).mapError fun fault => .malformed fault.message)
  | _ => none

end Decode

namespace Fields

def nullable (name : String) (dec : Decoder α) : Fields (Option α) := Fields.optional name dec

def textOrEmpty (name : String) : Fields String := lenient name Decode.text ""

end Fields

namespace OwnerReference
open Fields

def fields : Fields OwnerReference :=
  OwnerReference.mk <$> textOrEmpty "apiVersion" <*> nullable "blockOwnerDeletion" Decode.boolean
    <*> nullable "controller" Decode.boolean <*> textOrEmpty "kind" <*> textOrEmpty "name"
    <*> textOrEmpty "uid"

def decoder : Decoder OwnerReference := readObject "OwnerReference" fields

def toJson (r : OwnerReference) : Json :=
  .present
    [("apiVersion", some (.str r.apiVersion)),
     ("blockOwnerDeletion", r.blockOwnerDeletion.map .bool),
     ("controller", r.controller.map .bool),
     ("kind", some (.str r.kind)),
     ("name", some (.str r.name)),
     ("uid", some (.str r.uid))]

end OwnerReference

namespace ManagedFields
open Fields

def fields : Fields ManagedFields :=
  ManagedFields.mk <$> nullable "apiVersion" Decode.text <*> nullable "fieldsType" Decode.text
    <*> nullable "fieldsV1" (Decode.anything.map Json.sorted) <*> nullable "manager" Decode.text
    <*> nullable "operation" Decode.text <*> nullable "subresource" Decode.text
    <*> nullable "time" Decode.time

def decoder : Decoder ManagedFields := readObject "ManagedFieldsEntry" fields

def toJson (f : ManagedFields) : Json :=
  .present
    [("apiVersion", f.apiVersion.map .str), ("fieldsType", f.fieldsType.map .str),
     ("fieldsV1", f.fieldsV1), ("manager", f.manager.map .str),
     ("operation", f.operation.map .str), ("subresource", f.subresource.map .str),
     ("time", f.time.map .str)]

end ManagedFields

namespace ObjectMeta
open Fields

def fields : Fields ObjectMeta :=
  ObjectMeta.mk <$> nullable "annotations" (Decode.map Decode.text)
    <*> nullable "creationTimestamp" Decode.time
    <*> nullable "deletionGracePeriodSeconds" Decode.int64
    <*> nullable "deletionTimestamp" Decode.time
    <*> nullable "finalizers" (Decode.list Decode.text)
    <*> nullable "generateName" Decode.text
    <*> nullable "generation" Decode.int64
    <*> nullable "labels" (Decode.map Decode.text)
    <*> nullable "managedFields" (Decode.list ManagedFields.decoder)
    <*> nullable "name" Decode.text
    <*> nullable "namespace" Decode.text
    <*> nullable "ownerReferences" (Decode.list OwnerReference.decoder)
    <*> nullable "resourceVersion" Decode.text
    <*> nullable "selfLink" Decode.text
    <*> nullable "uid" Decode.text

def decoder : Decoder ObjectMeta := readObject "ObjectMeta" fields

def toJson (m : ObjectMeta) : Json :=
  .present
    [("annotations", m.annotations.map .textMap),
     ("creationTimestamp", m.creationTimestamp.map .str),
     ("deletionGracePeriodSeconds", m.deletionGracePeriodSeconds.map .word),
     ("deletionTimestamp", m.deletionTimestamp.map .str),
     ("finalizers", m.finalizers.map .texts),
     ("generateName", m.generateName.map .str),
     ("generation", m.generation.map .word),
     ("labels", m.labels.map .textMap),
     ("managedFields", m.managedFields.map fun fs => .arr (fs.map ManagedFields.toJson)),
     ("name", m.name.map .str),
     ("namespace", m.namespace_.map .str),
     ("ownerReferences", m.ownerReferences.map fun rs => .arr (rs.map OwnerReference.toJson)),
     ("resourceVersion", m.resourceVersion.map .str),
     ("selfLink", m.selfLink.map .str),
     ("uid", m.uid.map .str)]

def anyName (m : ObjectMeta) : String := (m.name.orElse fun _ => m.generateName).getD ""

def finalizerList (m : ObjectMeta) : List String := m.finalizers.getD []

end ObjectMeta
end SchedulerOperator
