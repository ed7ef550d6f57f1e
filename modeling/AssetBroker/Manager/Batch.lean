import AssetBroker.Manager
import AssetBroker.Manager.ErrorPolicy

/-! The operations on entities in their three forms: the primitive one, which passes the
backend's reports on; the batch form, which collects them and has one output for every
element in the order of the batch; and the form for one element. A refused request
never reaches the backend. A pager that is not handed to the caller is released before
the call returns. -/
namespace AssetBroker.Manager

variable {V : Vendor} {op : Operation}

/-- Puts a request to the backend. A refused one is a run without reports. -/
def submit (m : Manager V) (request : Request op) (context : Context V.State) :
    Dialogue V (Run (op.Payload V.Pager)) :=
  match request.fault? with
  | some fault => return ⟨[], pure (.error fault.toError)⟩
  | none => m.call (.entities request context)

/-- Passes every report of the backend on as it comes. -/
def primitive (m : Manager V) (request : Request op) (context : Context V.State) :
    Dialogue V (List (Report (op.Payload V.Pager)) × Except Error Unit) := do
  let run ← m.submit request context
  let reports ← run.reports.mapM Dialogue.ofLogged
  return (reports, ← Dialogue.ofLogged run.ending)

/-- The pagers among outcomes. -/
def pagersIn (op : Operation) (outcomes : List (Outcome (op.Payload V.Pager))) :
    List V.Pager :=
  outcomes.filterMap fun outcome => outcome.toOption.bind op.pager?

/-- Takes a report in as it comes. A pager in an outcome that is dropped is released. -/
def take (collector : Collector (op.Payload V.Pager))
    (report : Logged (Report (op.Payload V.Pager))) :
    Dialogue V (Collector (op.Payload V.Pager)) := do
  let made ← Dialogue.ofLogged report
  let recorded ← Dialogue.ofLogged (collector.record made)
  Dialogue.releaseAll (pagersIn op (collector.dropped? made).toList)
  return recorded

/-- What there is to settle once the backend is done with a request. -/
structure Gathered (V : Vendor) (op : Operation) where
  collector : Collector (op.Payload V.Pager)
  ending : Except Error Unit
  /-- What the backend then goes by. -/
  identifier : String

/-- Puts a request to the backend and collects the reports. -/
def gather (m : Manager V) (request : Request op) (context : Context V.State) :
    Dialogue V (Gathered V op) := do
  let run ← m.submit request context
  let collector ← run.reports.foldlM take (Collector.empty request.size)
  let ending ← Dialogue.ofLogged run.ending
  let identity ← m.identity
  return ⟨collector, ending, identity.identifier⟩

/-- Yields the outputs, or the error once the stored pagers are released. Where settling
stops, those in the slots that it did not come to are released before those in the outputs
that it has made. -/
def conclude (policy : ErrorPolicy) (request : Request op) (gathered : Gathered V op) :
    Dialogue V (Except Error (List (policy.Output (op.Payload V.Pager)))) :=
  match gathered.ending with
  | .error fault => do
    Dialogue.releaseAll (pagersIn op gathered.collector.stored)
    return .error fault
  | .ok () =>
    let settlement := policy.settleAll gathered.identifier request.errorContext
      gathered.collector.slots
    match settlement.stop? with
    | none => return .ok settlement.outputs
    | some (fault, rest) => do
      Dialogue.releaseAll (pagersIn op (rest.filterMap id))
      Dialogue.releaseAll (pagersIn op (settlement.outputs.map policy.outcome))
      return .error fault

def batch (m : Manager V) (policy : ErrorPolicy) (request : Request op)
    (context : Context V.State) :
    Dialogue V (Except Error (List (policy.Output (op.Payload V.Pager)))) := do
  conclude policy request (← m.gather request context)

/-- The only output for a batch of one element. -/
def single {α : Type} (outputs : List α) : Except Error α :=
  match outputs.head? with
  | some output => .ok output
  | none => .error (.unhandled "Manager returned no result for a single element.")

def one (m : Manager V) (policy : ErrorPolicy) (element : op.Element) (shared : op.Shared)
    (context : Context V.State) :
    Dialogue V (Except Error (policy.Output (op.Payload V.Pager))) := do
  let outputs ← m.batch policy (.ofElements [element] shared) context
  return outputs.bind single

end AssetBroker.Manager
