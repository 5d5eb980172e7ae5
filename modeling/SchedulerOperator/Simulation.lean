import SchedulerOperator.Cluster

namespace SchedulerOperator

inductive Action where
  | install (t : ResourceType)
  | uninstall (t : ResourceType)
  | installCapabilities
  | setAutoReady (on : Bool)
  | failOn (f : ArrangedFailure)
  | clearFailures
  | insertRoot (r : InferenceScheduler)
  | updateSpec (ns name : String) (spec : SchedulerSpec)
  | requestDeletion (ns name : String)
  | insertObject (t : ResourceType) (ns : Option String) (object : Json)
  | setReadyReplicas (t : ResourceType) (ns name : String) (ready : Int)
  | cancel

structure Simulation where
  cluster : Cluster
  cancelled : Bool := false

namespace Simulation

def update (f : Cluster → Cluster) (s : Simulation) :
    Except StoreError Unit × Simulation :=
  (.ok (), { s with cluster := f s.cluster })

def attempt (f : Cluster → Except StoreError Unit × Cluster) (s : Simulation) :
    Except StoreError Unit × Simulation :=
  let (r, cluster) := f s.cluster
  (r, { s with cluster := cluster })

def act (registry : TypeRegistry) (now : String) (s : Simulation) :
    Action → Except StoreError Unit × Simulation
  | .install t => s.update (Cluster.install (registry.api t))
  | .uninstall t => s.update (Cluster.uninstall (registry.api t))
  | .installCapabilities => s.update fun m =>
    Capability.all.foldl (fun m c => Cluster.install (registry.api c.resource) m) m
  | .setAutoReady on => s.update (Cluster.setAutoReady on)
  | .failOn f => s.update (Cluster.failOn f)
  | .clearFailures => s.update Cluster.clearFailures
  | .insertRoot r => s.update fun m => (m.insertRoot r).2
  | .updateSpec ns name spec => s.attempt (Cluster.updateSpec ns name fun _ => spec)
  | .requestDeletion ns name => s.attempt (Cluster.requestDeletion now ns name)
  | .insertObject t ns object => s.update (Cluster.insertObject (registry.api t) ns object)
  | .setReadyReplicas t ns name ready =>
    s.attempt (Cluster.setReadyReplicas (registry.api t) ns name ready)
  | .cancel => (.ok (), { s with cancelled := true })

def actAll (registry : TypeRegistry) (now : String) (actions : List Action) (s : Simulation) :
    Simulation :=
  actions.foldl (fun s a => (s.act registry now a).2) s

def answer (c : StoreCall) (s : Simulation) : c.Reply × Simulation :=
  let (r, cluster) := s.cluster.answer c
  (r, { s with cluster := cluster })

def store (now : String) : Store Simulation where
  answer := answer
  time _ := now

end Simulation
end SchedulerOperator
