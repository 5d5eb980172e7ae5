namespace SchedulerOperator

structure HealthResponse where
  status : Nat
  body : String
  allow : Option String
  contentType : Option String
  deriving DecidableEq, Repr

namespace HealthResponse

def afterAuthority : List Char → List Char
  | [] => []
  | ':' :: '/' :: '/' :: rest => rest.dropWhile (· != '/')
  | _ :: rest => afterAuthority rest

/-- The path of a target, which may name scheme and host before it; neither query nor
fragment belongs to it. -/
def pathOf (target : String) : String :=
  let front := target.toList.takeWhile fun c => c != '?' && c != '#'
  String.ofList (if front.head? = some '/' then front else afterAuthority front)

def endpoints : List String := ["/health", "/healthz"]

/-- Only `GET` and `HEAD` are served, and `HEAD` without the body. -/
def of (method target : String) : HealthResponse :=
  if !endpoints.contains (pathOf target) then ⟨404, "", none, none⟩
  else if method = "GET" then ⟨200, "ok", none, some "text/plain; charset=utf-8"⟩
  else if method = "HEAD" then ⟨200, "", none, some "text/plain; charset=utf-8"⟩
  else ⟨405, "", some "GET,HEAD", none⟩

end HealthResponse
end SchedulerOperator
