import CommitmentLog.Failure

/-!
# Counters

What an operator can watch: how many identities were appended, how many appends were refused and why, how
many roots were mined, and which requests were answered how.  Labelled counts are kept as the list of the
events counted, so that the count of a label is the number of its events.
-/

set_option autoImplicit false

namespace CommitmentLog

structure RequestLabel where
  method : String
  path : String
  status : Nat
  deriving DecidableEq, Repr

structure Counters where
  appended : Nat := 0
  measured : Nat := 0
  mined : Nat := 0
  /-- The categories of refused appends, the latest first. -/
  refused : List Category := []
  /-- The answered requests, the latest first. -/
  requests : List RequestLabel := []
  deriving DecidableEq, Repr

namespace Counters

/-! ## Counting -/

/-- The counters after an append.  Only refusals are counted among the failures. -/
def afterAppend {α : Type} (counters : Counters) : Except Failure α → Counters
  | .ok _ => { counters with appended := counters.appended + 1, measured := counters.measured + 1 }
  | .error (.refused refusal) => { counters with refused := refusal.category :: counters.refused }
  | .error _ => counters

/-- The counters after a confirmation, which counts if it has changed the status. -/
def afterConfirmation (counters : Counters) (counted : Bool) : Counters :=
  if counted then { counters with mined := counters.mined + 1 } else counters

def afterRequest (counters : Counters) (label : RequestLabel) : Counters :=
  { counters with requests := label :: counters.requests }

/-! ## Showing -/

structure Sample where
  name : String
  labels : List (String × String)
  value : Nat
  deriving DecidableEq, Repr

def textBefore (first second : String) : Bool :=
  first.toList.lex second.toList fun left right => left.toNat < right.toNat

/-- Whether a sample stands before another or beside it: by name, then by the texts of the labels. -/
def Sample.before (first second : Sample) : Bool :=
  !(second.name :: second.labels.map (·.2)).lex (first.name :: first.labels.map (·.2)) textBefore

def tally {α : Type} [DecidableEq α] : List α → List (α × Nat)
  | [] => []
  | event :: rest =>
      match (tally rest).find? fun entry => entry.1 = event with
      | none => (event, 1) :: tally rest
      | some _ =>
          (tally rest).map fun entry => if entry.1 = event then (entry.1, entry.2 + 1) else entry

def samples (counters : Counters) : List Sample :=
  let refused := (tally counters.refused).map fun (category, value) =>
    { name := "rootledger_append_failures_total", labels := [("reason", category.code)], value : Sample }
  let requests := (tally counters.requests).map fun (label, value) =>
    { name := "rootledger_requests_total",
      labels := [("method", label.method), ("path", label.path), ("status", toString label.status)],
      value : Sample }
  let plain : List Sample :=
    [{ name := "rootledger_append_seconds_count", labels := [], value := counters.measured },
     { name := "rootledger_identities_appended_total", labels := [], value := counters.appended },
     { name := "rootledger_roots_mined_total", labels := [], value := counters.mined }]
  ((refused ++ requests ++ plain).filter fun sample => sample.value != 0).mergeSort Sample.before

end Counters

end CommitmentLog
