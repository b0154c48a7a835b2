import ControlPlane.Json.Decode

/-!
# Jobs

The roles that a machine can run.
-/

namespace ControlPlane

/-- A role of a machine: it hosts units of workload, or it manages the environment as a state
server. -/
inductive Job where
  | hostUnits
  | manageEnviron
  deriving DecidableEq, Repr

namespace Job

/-- The word for a role. -/
def word : Job → String
  | hostUnits => "host_units"
  | manageEnviron => "manage_environ"

instance : Keyword Job where
  all := [hostUnits, manageEnviron]
  word := word
  mem_all a := by cases a <;> decide
  word_injective a b := by cases a <;> cases b <;> decide

/-- A role as it is stored. -/
def toValue (job : Job) : Json.Value :=
  .string job.word

/-- Reads a stored role. -/
def decode : Json.Decoder Job :=
  Json.Decoder.keyword

/-- The first role of a list that stands in it a second time. -/
def firstRepeated? (jobs : List Job) : Option Job :=
  go [] jobs
where
  /-- Looks for a role that is among those already seen. -/
  go (seen : List Job) : List Job → Option Job
    | [] => none
    | job :: rest => if seen.contains job then some job else go (job :: seen) rest

end Job

end ControlPlane
