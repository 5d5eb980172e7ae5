import SchedulerOperator.Meta.ObjectMeta

namespace SchedulerOperator

structure ResourceClaim where
  name : String
  request : Option String
  deriving DecidableEq, Repr, Inhabited

structure ResourceRequirements where
  claims : Option (List ResourceClaim)
  limits : Option (List (String × String))
  requests : Option (List (String × String))
  deriving DecidableEq, Repr, Inhabited

namespace ResourceClaim
open Fields

def fields : Fields ResourceClaim :=
  ResourceClaim.mk <$> textOrEmpty "name" <*> nullable "request" Decode.text

def decoder : Decoder ResourceClaim := readObject "ResourceClaim" fields

def toJson (c : ResourceClaim) : Json :=
  .present [("name", some (.str c.name)), ("request", c.request.map .str)]

end ResourceClaim

namespace ResourceRequirements
open Fields

def fields : Fields ResourceRequirements :=
  ResourceRequirements.mk <$> nullable "claims" (Decode.list ResourceClaim.decoder)
    <*> nullable "limits" (Decode.map Decode.text)
    <*> nullable "requests" (Decode.map Decode.text)

def decoder : Decoder ResourceRequirements := readObject "ResourceRequirements" fields

def toJson (r : ResourceRequirements) : Json :=
  .present
    [("claims", r.claims.map fun cs => .arr (cs.map ResourceClaim.toJson)),
     ("limits", r.limits.map .textMap),
     ("requests", r.requests.map .textMap)]

end ResourceRequirements
end SchedulerOperator
