import ControlPlane.Constraints.Basic
import ControlPlane.Machine.Record

/-!
# Templates

A template says what is asked of a new machine. It is checked before anything is written, and its
constraints are layered over those of the environment.
-/

namespace ControlPlane

/-- What is asked of a new machine. -/
structure Template where
  series : String
  jobs : List Job
  constraints : Constraints := {}
  noVote : Bool := false
  instanceId : Option InstanceId := none
  nonce : Option String := none
  hardware : Option Hardware := none
  addresses : List Address := []
  dirty : Bool := false
  principals : List String := []
  deriving DecidableEq, Repr

namespace Template

/-- The identifier of an instance that exists already; an empty one is none. -/
def knownInstance? (template : Template) : Option InstanceId :=
  template.instanceId.filter fun id => !id.isEmpty

/-- Whether a nonce is given; an empty one is none. -/
def hasNonce (template : Template) : Bool :=
  template.nonce.any fun nonce => !nonce.isEmpty

/-- The constraints of the template over those of the environment. Machines are provisioned
without a constraint on containers, which only guides where units are placed. -/
def layered (template : Template) (environment : Constraints) : Constraints :=
  { template.constraints.withFallbacks environment with container := none }

/-- Checks a template. The result has its constraints layered, and neither an instance nor a nonce
unless an instance is known. -/
def validate (template : Template) (environment : Constraints) (allowStateServer : Bool) :
    Except Error Template := do
  if template.series.isEmpty then
    throw (.invalidTemplate "no series specified")
  if template.jobs.isEmpty then
    throw (.invalidTemplate "no jobs specified")
  if let some job := Job.firstRepeated? template.jobs then
    throw (.invalidTemplate ("duplicate job: " ++ job.word))
  if template.jobs.contains .manageEnviron && !allowStateServer then
    throw (.permissionDenied (Job.manageEnviron.word ++ " specified but not allowed"))
  let layered := { template with constraints := template.layered environment }
  match template.knownInstance?.isSome, template.hasNonce with
  | true, false =>
    throw (.invalidTemplate "cannot add a machine with an instance id and no nonce")
  | false, true =>
    throw (.invalidTemplate "cannot specify a nonce without an instance id")
  | true, true => return layered
  | false, false => return { layered with instanceId := none, nonce := none }

/-- The machine that a checked template asks for. -/
def machine (template : Template) (id : String) (containerType : Option ContainerType) :
    Machine where
  id := id
  series := template.series
  containerType := containerType
  principals := template.principals
  life := .alive
  jobs := template.jobs
  noVote := template.noVote
  clean := !template.dirty
  instanceId := template.knownInstance?
  nonce := template.nonce
  addresses := template.addresses
  supportedContainersKnown := false
  supportedContainers := []

end Template

end ControlPlane
