import SchedulerOperator.ApiServer

namespace SchedulerOperator

structure Script where
  answers : List Exchange := []
  sent : List HttpRequest := []
  cancelled : Bool := false
  deriving Repr

namespace Script

def send (r : HttpRequest) (s : Script) : Exchange × Script :=
  match s.answers with
  | [] => (.failure "no response scripted", { s with sent := r :: s.sent })
  | x :: rest => (x, { s with answers := rest, sent := r :: s.sent })

/-- A client that can be cancelled waits for nothing then, and its request is not sent. -/
def exchange (cancellable : Bool) (r : HttpRequest) (s : Script) : Option Exchange × Script :=
  if cancellable && s.cancelled then (none, s)
  else
    let (x, s) := send r s
    (some x, s)

def requests (s : Script) : List HttpRequest := s.sent.reverse

def store (cancellable : Bool) (now : String) : Store Script :=
  ApiServer.store (exchange cancellable) fun _ => now

end Script
end SchedulerOperator
