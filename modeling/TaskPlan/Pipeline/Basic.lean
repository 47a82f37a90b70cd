import TaskPlan.Config.Graph
import TaskPlan.Config.Parameters
import TaskPlan.Job

/-!
# Pipelines

Jobs go through the stages of a pipeline one by one. A stage turns a job into any
number of jobs or refuses it; what was refused goes to the end as it is.
`Pipeline.stream` is what comes out of a pipeline and `Pipeline.run` its jobs, unless
one was refused. `Pipeline.events` also tells when jobs pass the stages that watch
for them: a stage sees a job only when something after it is asked for.
-/

namespace TaskPlan

/-- What the stages of a kind go by. -/
structure StageConfig where
  kind : String
  path : String
  config : Fields
  params : Parameters
  graphConfig : GraphConfig

inductive StageAction where
  | map (f : StageConfig → Job → Result Job)
  | filter (keep : StageConfig → Job → Bool)
  | flatMap (f : StageConfig → Job → Result (List Job))
  /-- the jobs as they are, but their passing is recorded -/
  | watch

structure Stage where
  name : String
  action : StageAction

namespace Stage

def expand (stage : Stage) (config : StageConfig) (job : Job) : List (Result Job) :=
  match stage.action with
  | .map f => [f config job]
  | .filter keep => if keep config job then [.ok job] else []
  | .flatMap f =>
    match f config job with
    | .ok jobs => jobs.map .ok
    | .error error => [.error error]
  | .watch => [.ok job]

end Stage

abbrev Pipeline := List Stage

namespace Pipeline

def names (pipeline : Pipeline) : List String := pipeline.map Stage.name

def through (config : StageConfig) : Pipeline → Result Job → List (Result Job)
  | [], item => [item]
  | _, .error error => [.error error]
  | stage :: rest, .ok job => (stage.expand config job).flatMap (through config rest)

def stream (pipeline : Pipeline) (config : StageConfig) (jobs : List Job) : List (Result Job) :=
  jobs.flatMap fun job => through config pipeline (.ok job)

/-- The jobs that come out, or the first refusal among them. -/
def run (pipeline : Pipeline) (config : StageConfig) (jobs : List Job) : Result (List Job) :=
  (pipeline.stream config jobs).mapM id

/-! ### What happens on the way -/

inductive Event where
  | passed (stage label : String)
  | arrived (item : Result Job)

namespace Event

def item? : Event → Option (Result Job)
  | .passed _ _ => none
  | .arrived item => some item

end Event

def arrivals (stage : Stage) (job : Job) : List Event :=
  match stage.action with
  | .watch => [.passed stage.name job.displayLabel]
  | _ => []

def eventsThrough (config : StageConfig) : Pipeline → Result Job → List Event
  | [], item => [.arrived item]
  | _, .error error => [.arrived (.error error)]
  | stage :: rest, .ok job =>
    arrivals stage job ++ (stage.expand config job).flatMap (eventsThrough config rest)

def events (pipeline : Pipeline) (config : StageConfig) (jobs : List Job) : List Event :=
  jobs.flatMap fun job => eventsThrough config pipeline (.ok job)

theorem items_arrivals (stage : Stage) (job : Job) :
    (arrivals stage job).filterMap Event.item? = [] := by
  cases action : stage.action <;> simp [arrivals, action, Event.item?]

theorem items_eventsThrough (config : StageConfig) (pipeline : Pipeline) (item : Result Job) :
    (eventsThrough config pipeline item).filterMap Event.item? = through config pipeline item := by
  induction pipeline generalizing item with
  | nil => simp [eventsThrough, through, Event.item?]
  | cons stage rest ih =>
    cases item with
    | error error => simp [eventsThrough, through, Event.item?]
    | ok job =>
      simp only [eventsThrough, through, List.filterMap_append, items_arrivals, List.nil_append,
        List.filterMap_flatMap]
      congr 1
      funext item
      exact ih item

/-- The events tell what comes out of the pipeline. -/
theorem items_events (pipeline : Pipeline) (config : StageConfig) (jobs : List Job) :
    (pipeline.events config jobs).filterMap Event.item? = pipeline.stream config jobs := by
  simp only [events, stream, List.filterMap_flatMap, items_eventsThrough]

/-- The events up to the first refusal, after which nothing more is asked for. -/
def untilRefusal : List Event → List Event
  | [] => []
  | .arrived (.error error) :: _ => [.arrived (.error error)]
  | event :: rest => event :: untilRefusal rest

end Pipeline

end TaskPlan
