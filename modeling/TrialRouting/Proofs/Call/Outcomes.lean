import TrialRouting.Proofs.Call.Grammar

/-!
# The outcome a call reports

The outcome that telemetry hears is the outcome of the attempts, which is also what the
caller's answer is made from. The two agree unless the attempts end with a value of a type
that the method does not return: the success has been reported by the time the value is
handed back under the method's own type.
-/

namespace TrialRouting

open Telemetry (Account Report Utterance heardFrom)

namespace Telemetry.Report

/-- Whether a report is the outcome of a call. -/
def isOutcome : Report → Bool
  | success => true
  | failure _ => true
  | _ => false

/-- The report of an outcome. -/
def ofOutcome : Outcome → Report
  | .ok _ => success
  | .error f => failure f

end Telemetry.Report

/-- No outcome is reported before the last reports. A detour is a failure of an attempt, which is
not yet one of the call. -/
theorem outcomes_detours (r : Registration) (made : List Leg) (keys : List String) :
    (detours r made keys).filter (·.isOutcome) = [] := by
  refine List.filter_eq_nil_iff.mpr fun report member => ?_
  obtain ⟨⟨leg, next⟩, -, reported⟩ := List.mem_flatMap.mp member
  rcases List.mem_append.mp reported with failed | followed
  · obtain ⟨f, -, rfl⟩ := List.mem_map.mp failed
    simp [Telemetry.Report.isOutcome]
  · rw [List.mem_singleton.mp followed]
    simp [Telemetry.Report.isOutcome]

/-- A call that has ended has reported its outcome, and no other one. It is among the last reports,
whichever way the call has ended. -/
theorem Journey.Reports.outcome {r : Registration} {cancelled : Prop} {j : Journey}
    {selection : Selection} {made : List Leg} {leg? : Option Leg} {closing : List Report}
    {a : Account} {o : Outcome} (reports : j.Reports r cancelled selection made leg? closing a)
    (ended : j.phase = .ended o) :
    a.reports.filter (·.isOutcome) = [.ofOutcome o] := by
  have opened : selection.opening.filter (·.isOutcome) = [] := rfl
  have closed : closing.filter (·.isOutcome) = [.ofOutcome o] := by
    have closes := reports.closes
    rw [ended] at closes
    cases closes with
    | underway impossible => cases impossible
    | value ending => rfl
    | failure failed => rfl
    | cancelled known => rfl
  rw [reports.reports, List.filter_append, List.filter_append, opened, outcomes_detours, closed]
  rfl

namespace World

/-- A call that has got its key and has ended has reported one outcome, its own. If that is a
failure, it is the one its caller's error is made from. Success and failure as reported are those of
the caller exactly if the call has not ended with a value of a type that its method does not return:
such a value is reported as a success before it is handed back, and the caller gets an error in its
place.

Proof: the account of the call closes with the report of its outcome, and has no other one in it.
What the caller gets is made from that outcome: a failure becomes the caller's error as it is, and a
value is handed back if the method returns values of its type. -/
theorem reported_outcome_agrees_iff_typed {router : Router} {s : State} {w : World} {n : Nat}
    {j : Journey} {selection : Selection} {o : Outcome} (tokens : s.tokens.Sound)
    (becomes : Becomes router ⟨s, []⟩ w) (here : w.journeys[n]? = some j)
    (selected : j.selection = some selection) (ended : j.phase = .ended o) :
    ∃ (spoken : List Utterance) (a : Account), s.Utters router.telemetry w.state spoken ∧
      heardFrom a.scope.number spoken = a.utterances ∧
      a.scope = ⟨a.scope.number, router.registration.service, j.call.method, selection.key⟩ ∧
      a.reports.filter (·.isOutcome) = [.ofOutcome o] ∧
      (∀ f, .failure f ∈ a.reports → j.call.result o = .error f.toInterface) ∧
      (((.success ∈ a.reports ↔ ∃ v, j.call.result o = .ok v) ∧
          ((∃ f, .failure f ∈ a.reports) ↔ ∃ e, j.call.result o = .error e)) ↔
        ∀ v, o = .ok v → j.call.request.operation.returns v = true) := by
  obtain ⟨spoken, accounts, minuted⟩ := Becomes.minuted tokens becomes
  obtain ⟨a, member, selection', made, leg?, closing, reports⟩ :=
    minuted.exists_account here selected (by simp [ended])
  obtain rfl : selection = selection' :=
    Option.some.inj (selected.symm.trans reports.selected)
  have outcome := reports.outcome ended
  have reported (report : Report) (own : report.isOutcome = true) :
      report ∈ a.reports ↔ report = .ofOutcome o := by
    rw [← List.mem_singleton, ← outcome, List.mem_filter]
    exact ⟨fun told => ⟨told, own⟩, And.left⟩
  refine ⟨spoken, a, minuted.uttered, minuted.minutes.own a member, reports.scope, outcome, ?_, ?_⟩
  · intro f told
    have same : Report.failure f = .ofOutcome o := (reported _ rfl).mp told
    cases o with
    | ok v => cases same
    | error g =>
      cases same
      rfl
  · rw [reported .success rfl]
    simp only [reported (.failure _) rfl]
    cases o with
    | error g => simp [Report.ofOutcome, Call.result]
    | ok v =>
      cases typed : j.call.request.operation.returns v with
      | true => simp [Report.ofOutcome, Call.result, typed]
      | false => simp [Report.ofOutcome, Call.result, typed]

/-- The first call has ended with a text, as its method does. -/
theorem recorded_text_is_success :
    ∃ (spoken : List Utterance) (a : Account),
      spareStart.Utters .recorder (recordedWorld [0, 0, 0, 0, 0, 0, 0, 0]).state spoken ∧
      heardFrom a.scope.number spoken = a.utterances ∧
      (.success ∈ a.reports ↔ ∃ v, (spareCall 0 "hi").result (.ok (.text "hello")) = .ok v) ∧
      ((∃ f, .failure f ∈ a.reports) ↔
        ∃ e, (spareCall 0 "hi").result (.ok (.text "hello")) = .error e) := by
  obtain ⟨spoken, a, uttered, own, -, -, -, agrees⟩ := reported_outcome_agrees_iff_typed
    (o := .ok (.text "hello")) sound_spareStart
    (becomes_recordedWorld [0, 0, 0, 0, 0, 0, 0, 0]) (n := 0) rfl
    (show _ = some (⟨"lost", .default⟩ : Selection) from rfl) rfl
  obtain ⟨success, failure⟩ := agrees.mpr fun v same => by cases same; rfl
  exact ⟨spoken, a, uttered, own, success, failure⟩

/-- A router that records reports and whose one decorator answers with a value of a type that
no method returns. -/
def misshapingRouter : Router :=
  { recordingRouter with pipeline := [.interceptor (.answering "wrong_shape" .other)] }

/-- A call that ends with a value of the wrong type reports a success, while its caller gets an
error. It takes a decorator that answers in the place of the implementation to get there. -/
theorem misshapen_value_is_reported_as_success :
    let w := World.advance misshapingRouter [0, 0, 0, 0, 0, 0, 0]
      ⟨spareStart, [{ call := spareCall 0 "hi" }]⟩
    ∃ j, Becomes misshapingRouter ⟨spareStart, []⟩ w ∧ w.journeys[0]? = some j ∧
      j.phase = .ended (.ok .other) ∧
      (w.state.recorded.map Prod.snd).filter (·.isOutcome) = [.success] ∧
      j.call.result (.ok .other) = .error (.routing (.resultShape "call")) := by
  have joined : Moves misshapingRouter ⟨spareStart, []⟩
      ⟨spareStart, [{ call := spareCall 0 "hi" }]⟩ := .joined (by decide)
  refine ⟨_, .trans (.single joined) (becomes_advance _ _ _), rfl, rfl, rfl, rfl⟩

end World

end TrialRouting
