import Casework.State

/-!
The notices of lifecycle events. A deployment's notifications are sent in their
order, each at most once per event, with facts about the changed instance.
-/

namespace Casework

/-- The facts about an instance that texts may be filled from. -/
def Instance.facts (i : Instance) : SortedMap String String :=
  let always :=
    [("process_instance_id", i.id), ("process_instance_label", i.label),
      ("process_definition_key", i.processKey), ("process_status", Named.name i.status)]
  let status := i.applicationStatus.toList.map fun status => ("application_status", status)
  let initiator := i.initiator.toList.map fun user => ("initiator_id", user)
  SortedMap.ofList (always ++ status ++ initiator)

theorem Instance.get?_facts (i : Instance) (name : String) :
    i.facts.get? name =
      if name = "process_instance_id" then some i.id
      else if name = "process_instance_label" then some i.label
      else if name = "process_definition_key" then some i.processKey
      else if name = "process_status" then some (Named.name i.status)
      else if name = "application_status" then i.applicationStatus
      else if name = "initiator_id" then i.initiator
      else none := by
  unfold facts
  cases i.applicationStatus <;> cases i.initiator <;>
    simp only [SortedMap.ofList, SortedMap.insertMany, Option.toList_none, Option.toList_some,
      List.map_nil, List.map_cons, List.cons_append, List.nil_append, List.append_nil,
      List.foldl_cons, List.foldl_nil, SortedMap.get?_insert, SortedMap.get?_empty] <;>
    grind

/-- What a deployment sends when an event happens to an instance. -/
def Deployment.notices (d : Deployment) (i : Instance) (e : Event) (now : Instant) : List Notice :=
  (d.notifications.filter fun n => n.trigger == e).map fun n => ⟨n, i.facts, e, now⟩

/-- Sends the notices of an event. Where the deployment is not known it is looked up, and
    nothing is sent if it is not found. -/
def notify (ctx : Context) (known : Option Deployment) (i : Instance) (e : Event) :
    Action Unit := do
  let deployment ←
    match known with
    | some d => pure (some d)
    | none => tryCatch (Action.findDeployment ctx i.deploymentId) fun _ => pure none
  Action.sendNotices ctx ((deployment.map fun d => d.notices i e ctx.now).getD [])

end Casework
