import TrialRouting.Context
import TrialRouting.Failure
import TrialRouting.Selection.Basic

/-!
# Telemetry

Each call that gets past its selection reports to one scope of a provider: the
selected variant, failed attempts and fallbacks, then one outcome, and at last its
disposal. A recorder keeps the reports as they come; the tracing provider turns them
into events; the metrics provider counts them; the silent one forgets them.
-/

namespace TrialRouting.Telemetry

/-- Where reports go. -/
inductive Provider where
  | silent
  | recorder
  | tracing
  | metrics
  deriving DecidableEq, Repr, Inhabited

/-- The scope of one call. -/
structure Scope where
  /-- Scopes are numbered in the order they start. -/
  number : Nat
  service : String
  method : String
  /-- Key of the primary attempt. -/
  selected : String
  deriving DecidableEq, Repr

/-- The scope of a call. -/
def Scope.ofContext (number : Nat) (c : Context) : Scope :=
  ⟨number, c.service, c.method, c.selected⟩

/-- A scope that is still open, if it is. The outcome is the last thing reported before
    the disposal, and after that the guard is closed. -/
abbrev Guard := Option Scope

/-- A report to a scope. -/
inductive Report where
  | started
  | variant (key : String) (source : SelectionSource)
  | fallback (key : String)
  | attemptFailure (key : String) (failure : Failure)
  | success
  | failure (failure : Failure)
  | disposed
  deriving DecidableEq, Repr

/-- A report as a recorder writes it. -/
def Report.text (scope : Scope) (report : Report) : String :=
  s!"t{scope.number} " ++ match report with
    | started => s!"start {scope.service}.{scope.method} {scope.selected}"
    | variant key source => s!"variant {key} " ++ source.text
    | fallback key => s!"fallback {key}"
    | attemptFailure key f => s!"attempt_failure {key} " ++ f.kind ++ ": " ++ f.message
    | success => "success"
    | failure f => "failure " ++ f.kind ++ ": " ++ f.message
    | disposed => "dispose"

/-- A report as an event of a trace. -/
def Report.event? (scope : Scope) (report : Report) : Option Trace.Event :=
  let fields := [Trace.text "service" scope.service, Trace.text "method" scope.method]
  match report with
  | started => none
  | variant key source =>
      some ⟨.info, "variant selected",
        fields ++ [Trace.text "key" key, Trace.text "source" source.text]⟩
  | fallback key => some ⟨.warn, "falling back", fields ++ [Trace.text "key" key]⟩
  | attemptFailure key f =>
      some ⟨.warn, "attempt failed", fields ++
        [Trace.text "key" key, Trace.text "kind" f.kind, Trace.text "error" f.message]⟩
  | success => some ⟨.info, "invocation succeeded", fields⟩
  | failure f =>
      some ⟨.error, "invocation failed", fields ++
        [Trace.text "kind" f.kind, Trace.text "error" f.message]⟩
  | disposed => none

/-- A measured name with its labels. -/
structure Sample where
  name : String
  labels : List (String × String)
  deriving DecidableEq, Repr

/-- A name with its labels in braces. -/
def Sample.text (s : Sample) : String :=
  let labels := s.labels.map fun (name, value) => name ++ "=" ++ value
  s.name ++ "\x7b" ++ String.intercalate "," labels ++ "\x7d"

/-- The samples that end a call: one for its outcome and one for its duration. -/
def outcomeSamples (scope : Scope) (outcome : String) : List Sample :=
  let labels := [("service", scope.service), ("method", scope.method)]
  [⟨"switchyard_invocations_total", labels ++ [("outcome", outcome)]⟩,
    ⟨"switchyard_invocation_duration_seconds", labels⟩]

/-- A report as what it adds to the metrics. -/
def Report.samples (scope : Scope) (report : Report) : List Sample :=
  let labels := [("service", scope.service), ("method", scope.method)]
  match report with
  | variant key source =>
      [⟨"switchyard_variant_selected_total",
        labels ++ [("key", key), ("source", source.label)]⟩]
  | fallback key => [⟨"switchyard_fallbacks_total", labels ++ [("key", key)]⟩]
  | attemptFailure key f =>
      [⟨"switchyard_attempt_failures_total", labels ++ [("key", key), ("kind", f.kind)]⟩]
  | success => outcomeSamples scope "ok"
  | failure f => outcomeSamples scope f.kind
  | started => []
  | disposed => []

/-- How often each text occurs, sorted by text. -/
def tally (texts : List String) : List (String × Nat) :=
  (texts.mergeSort.eraseDups).map fun t => (t, texts.count t)

/-- The totals of a list of samples. -/
def totals (samples : List Sample) : List (String × Nat) :=
  tally (samples.map (·.text))

end TrialRouting.Telemetry
