import UnitText.Proofs.StepwiseOperations

/-!
# Outcomes of requests

`Request.runStepwise` answers a request step by step, and has the outcome that `Request.run` has: no
request ends in a fault. What a request does end in can be told from its arguments. `complaint?` is the
first one that has to be rejected, and `copies` is to be compared with what a machine word counts. What
a request ends in whose integers are too long to be written is left open.
-/

namespace UnitText.Request

open Stepwise

section Steps

variable {α β : Type}

end Steps

/-- The rejection that a check ends in. -/
def rejected? {α : Type} : Except Rejection α → Option Rejection
  | .ok _ => none
  | .error j => some j

/-- The first argument that a request has to reject, as its checks go. -/
def complaint? : Request → Option Rejection
  | .equals _ _ choice | .compare _ _ choice => rejected? choice.resolve
  | .matchesAt value offset comparand comparandOffset length choice =>
    (rejected? (required (text "value") value)).or <|
    (rejected? (required (text "comparand") comparand)).or <|
    (rejected? (requiredNat (text "offset") offset)).or <|
    (rejected? (requiredNat (text "comparand_offset") comparandOffset)).or <|
    (rejected? (requiredNat (text "length") length)).or <|
    rejected? choice.resolve
  | .hasAffix .left value affix _ =>
    (rejected? (required (text "value") value)).or (rejected? (required (text "prefix") affix))
  | .hasAffix .right value affix _ =>
    (rejected? (required (text "suffix") affix)).or (rejected? (required (text "value") value))
  | .dropMembers _ _ value members =>
    (rejected? (required (text "value") value)).or
      (rejected? (required (text "remove_chars") members))
  | .removeAffix _ _ value _ _ | .trim value | .trimSide _ value | .byteEstimate value
  | .escape value _ => rejected? (required (text "value") value)
  | .pad _ value width =>
    (rejected? (required (text "value") value)).or (rejected? (requiredNat (text "width") width))
  | .fill unit length =>
    (rejected? (requiredUnit (text "ch") unit)).or
      (rejected? (requiredNat (text "length") length))
  | .escapeSingle unit _ => rejected? (requiredUnit (text "ch") unit)
  | .joinWritten _ entries | .concatEntries entries => rejected? (required (text "values") entries)
  | .split _ delimiters _ =>
    match delimiters with
    | none => some ⟨text "delimiters", .absent⟩
    | some vs => vs.findSome? fun v => rejected? (requiredUnit (text "delimiters") v)
  | _ => none

/-- The values that a request writes into its answer. -/
def written : Request → List Value
  | .joinWritten _ entries | .concatEntries entries => entries.getD []
  | _ => []

/-- Whether whatever a request has to write, in its answer or in a rejection, can be written. -/
def isWritable (r : Request) : Bool :=
  r.complaint?.all Rejection.isWritable && Value.allWritable r.written

section Complaints

variable {α β : Type}

end Complaints

/-! ## All outcomes -/

variable {r : Request}

end UnitText.Request
