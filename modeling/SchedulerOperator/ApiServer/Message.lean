import SchedulerOperator.ApiServer.Http
import SchedulerOperator.Store

namespace SchedulerOperator

structure TypeNames where
  apiVersion : String
  kind : String
  deriving DecidableEq, Repr

structure DynamicObject where
  types : Option TypeNames
  metadata : ObjectMeta
  data : List (String × Json)
  deriving Repr

namespace DynamicObject

/-- Takes the type names out of the members, in their order, up to one that is no text or
was there before. They count only if both are there and the members were all looked at; a
member that was looked at is gone either way. -/
def takeTypes (version kind : Option String) :
    List (String × Json) → Option TypeNames × List (String × Json)
  | [] => (do return ⟨← version, ← kind⟩, [])
  | (k, v) :: rest =>
    if k = "apiVersion" then
      match version, v with
      | none, .str s => takeTypes (some s) kind rest
      | _, _ => (none, rest)
    else if k = "kind" then
      match kind, v with
      | none, .str s => takeTypes version (some s) rest
      | _, _ => (none, rest)
    else
      let (types, others) := takeTypes version kind rest
      (types, (k, v) :: others)

def ofParts (metadata : ObjectMeta) (others : List (String × Json)) : DynamicObject :=
  let (types, data) := takeTypes none none others
  ⟨types, metadata, (Json.obj data).sorted.members⟩

def decoder : Decoder DynamicObject :=
  (Fields.readOpen "DynamicObject" (Fields.defaulted "metadata" ObjectMeta.decoder {})).map
    fun (metadata, others) => ofParts metadata others

def toJson (o : DynamicObject) : Json :=
  let named := match o.types with
    | some t => [("apiVersion", Json.str t.apiVersion), ("kind", Json.str t.kind)]
    | none => []
  .obj (Assoc.ofList (named ++ ("metadata", o.metadata.toJson) :: o.data))

end DynamicObject

namespace ObjectList
open Fields

def metadataFields : Fields Unit :=
  (fun _ _ _ _ => ()) <$> nullable "continue" Decode.text
    <*> nullable "remainingItemCount" Decode.int64
    <*> nullable "resourceVersion" Decode.text
    <*> nullable "selfLink" Decode.text

def fields : Fields (List DynamicObject) :=
  (fun _ items => items) <$> defaulted "metadata" (readObject "ListMeta" metadataFields) ()
    <*> required "items"
      ((Decode.optional (Decode.list DynamicObject.decoder)).map (·.getD []))

def decoder : Decoder (List DynamicObject) := (readOpen "ObjectList" fields).map Prod.fst

end ObjectList

structure ErrorResponse where
  status : String
  message : String
  reason : String
  code : Int
  deriving DecidableEq, Repr

namespace ErrorResponse
open Fields

def fields : Fields ErrorResponse :=
  ErrorResponse.mk <$> required "status" Decode.text
    <*> defaulted "message" Decode.text ""
    <*> defaulted "reason" Decode.text ""
    <*> required "code" Decode.natural16

def decoder : Decoder ErrorResponse := read "ErrorResponse" fields

/-- What the code means for the caller; too many requests and server failures are as if
the server could not be reached. -/
def toStoreError (r : ErrorResponse) : StoreError :=
  if r.code = 404 then .notFound r.message
  else if r.code = 409 then .conflict r.message
  else if r.code = 400 ∨ r.code = 401 ∨ r.code = 403 ∨ r.code = 422 then .rejected r.message
  else .unavailable (r.message ++ " (" ++ toString r.code ++ ")")

end ErrorResponse

namespace DeletionStatus
open Fields

def causeFields : Fields Unit :=
  (fun _ _ _ => ()) <$> defaulted "reason" Decode.text ""
    <*> defaulted "message" Decode.text "" <*> defaulted "field" Decode.text ""

def detailFields : Fields Unit :=
  (fun _ _ _ _ _ _ => ()) <$> defaulted "name" Decode.text ""
    <*> defaulted "group" Decode.text "" <*> defaulted "kind" Decode.text ""
    <*> defaulted "uid" Decode.text ""
    <*> defaulted "causes" (Decode.list (read "StatusCause" causeFields)) []
    <*> defaulted "retryAfterSeconds" Decode.natural32 0

def summary : Decoder Unit :=
  Decode.variant [("Success", ()), ("Failure", ())] none ["Success", "Failure"]

def fields : Fields Unit :=
  (fun _ _ _ _ _ => ()) <$> Fields.optionalMember "status" summary
    <*> defaulted "code" Decode.natural16 0 <*> defaulted "message" Decode.text ""
    <*> defaulted "reason" Decode.text ""
    <*> Fields.optionalMember "details" (read "StatusDetails" detailFields)

def decoder : Decoder Unit := read "Status" fields

end DeletionStatus
end SchedulerOperator
