import AssetBroker.Proofs.Outputs
import AssetBroker.Proofs.ReportOrder
import AssetBroker.Proofs.Validation

/-! What becomes of the pagers that a backend passes in its reports. None is lost and none is
used twice: a call hands a pager over in the place of its element, or releases it before it
returns. -/
namespace AssetBroker

variable {V : Vendor} {σ α : Type} {op : Operation}

/-- The pagers that an answer brings. -/
def Query.brings : (query : Query V) → query.Answer → List V.Pager
  | .call _ (@Call.entities _ op _ _), run => Manager.pagersIn op (run.made.map Report.outcome)
  | _, _ => []

/-- The pagers that were passed to the library, in order. -/
def Transcript.received (transcript : Transcript V σ α) : List V.Pager :=
  transcript.exchanges.flatMap fun exchange => exchange.1.brings exchange.2

namespace Manager

/-- The pagers in the value of a call. -/
def handed (policy : ErrorPolicy) (op : Operation) :
    Except Error (List (policy.Output (op.Payload V.Pager))) → List V.Pager
  | .ok outputs => pagersIn op (outputs.map policy.outcome)
  | .error _ => []

section

variable (m : Manager V) (policy : ErrorPolicy) (request : Request op)
  (context : Context V.State) (world : World V σ) (state : σ)

end

/-- Every pager that is passed to the library in a call is either handed over or released, and
that just once. -/
structure Accounted (call : Transcript V σ α) (handed : List V.Pager) : Prop where
  all : (handed ++ call.released).Perm call.received
  once : call.received.Nodup →
    handed.Nodup ∧ call.released.Nodup ∧ handed.Disjoint call.released

theorem Accounted.of_perm {call : Transcript V σ α} {handed : List V.Pager}
    (all : (handed ++ call.released).Perm call.received) : Accounted call handed := by
  refine ⟨all, ?_⟩
  intro distinct
  exact List.nodup_append'.mp (all.nodup_iff.mpr distinct)

section

variable (m : Manager V) (policy : ErrorPolicy) (context : Context V.State)
  (world : World V σ) (state : σ)

end

end Manager

end AssetBroker
