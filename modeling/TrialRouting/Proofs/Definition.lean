import TrialRouting.Definition
import TrialRouting.Proofs.TrialKeys

/-!
# Trials and their definitions

A trial that has been built passes the same checks when it is built again from its own
definition, because they look at nothing that the definition leaves out. The one exception is
the timeout: a definition counts whole milliseconds, so what is past the last of them is cut
off, and a timeout shorter than one of them is none at all.
-/

namespace TrialRouting

namespace Duration

variable {d : Duration}

/-- A duration cut to the milliseconds that it shows. -/
def cut (d : Duration) : Duration :=
  .ofMillis d.millis.toNat

/-- A duration whose whole milliseconds fit in 64 bits. -/
def Fits (d : Duration) : Prop :=
  d.nanoseconds < UInt64.size * 1000000

/-- A duration that fits shows all its whole milliseconds, and what is cut off is the rest after the
last of them. One that does not fit would show its milliseconds modulo 64 bits instead. -/
theorem nanoseconds_cut (fits : d.Fits) :
    d.cut.nanoseconds = d.nanoseconds / 1000000 * 1000000 := by
  have shown : d.nanoseconds / 1000000 < UInt64.size := by
    rw [Fits] at fits
    omega
  have toNat : d.millis.toNat = d.nanoseconds / 1000000 := Nat.mod_eq_of_lt shown
  rw [cut, ofMillis, toNat]

/-- Cutting leaves nothing of a duration exactly if it is shorter than a millisecond. Such a
duration is positive and passes its check all the same, before it is cut. -/
theorem isZero_cut (fits : d.Fits) : d.cut.isZero = true ↔ d.nanoseconds < 1000000 := by
  rw [isZero, beq_iff_eq, nanoseconds_cut fits]
  omega

/-- Cutting changes nothing exactly if a duration is a whole number of milliseconds. -/
theorem cut_eq_self_iff (fits : d.Fits) : d.cut = d ↔ 1000000 ∣ d.nanoseconds := by
  have same : d.cut = d ↔ d.cut.nanoseconds = d.nanoseconds := by
    constructor
    · exact fun same => congrArg nanoseconds same
    · intro same
      rw [← show (⟨d.cut.nanoseconds⟩ : Duration) = d.cut from rfl, same]
  rw [same, nanoseconds_cut fits]
  omega

end Duration

/-- A timeout policy cut to the milliseconds that it shows. -/
def TimeoutPolicy.cut (p : TimeoutPolicy) : TimeoutPolicy :=
  { p with duration := p.duration.cut }

namespace Draft

variable {d : Draft} {r : Registration} {key : String}

/-- The draft of the definition of what a draft describes. -/
def restored (d : Draft) (key : String) : Draft :=
  (d.registration key).toDefinition.toDraft

/-- A definition keeps the timeout up to the milliseconds that it shows. -/
theorem timeout_restored (d : Draft) (key : String) :
    (d.restored key).timeout = d.timeout.map (·.cut) := by
  simp only [restored, Registration.toDefinition, registration, Definition.toDraft, Option.map_map]
  rfl

/-- A definition keeps what a draft describes, except for its predicate and for what is cut off its
timeout. A predicate is a function and has no declarative form; everything else goes over member by
member. -/
theorem registration_restored (d : Draft) (key : String) :
    (d.restored key).registration key =
      { d.registration key with timeout := d.timeout.map (·.cut), predicate := none } := by
  rw [← timeout_restored d key]
  rfl

/-- The default key passes its check again, since a definition names the same key and lists the same
trials. -/
theorem checkDefault_restored (passes : d.Passes key) :
    (d.restored key).checkDefault = .ok key := by
  have member : key ∈ d.keys := mem_of_checkDefault passes.byDefault
  have listed : (d.restored key).keys.contains key = true := List.contains_iff_mem.mpr member
  have given : (d.restored key).defaultKey = some key := rfl
  simp only [checkDefault, given, listed, if_true]

/-- A timeout that takes some time passes its check with the action of one that has passed. The
check looks at the length of the timeout and at the key of its action, and only the length has
changed. -/
theorem checkTimeout_of_passed {d' : Draft} {p p' : TimeoutPolicy}
    (passed : d.checkTimeout = .ok ())
    (set : d.timeout = some p) (set' : d'.timeout = some p') (keys : d'.keys = d.keys)
    (action : p'.action = p.action) (lasting : p'.duration.isZero = false) :
    d'.checkTimeout = .ok () := by
  simp only [checkTimeout, set] at passed
  split at passed
  · cases passed
  · simp only [checkTimeout, set', keys, action, lasting, Bool.false_eq_true, if_false]
    exact passed

/-- The timeout passes its check again unless cutting it leaves nothing. -/
theorem checkTimeout_restored (passes : d.Passes key)
    (lasting : ∀ p, d.timeout = some p → p.duration.cut.isZero = false) :
    (d.restored key).checkTimeout = .ok () := by
  cases set : d.timeout with
  | none => simp only [checkTimeout, timeout_restored, set, Option.map_none]
  | some p =>
    have set' : (d.restored key).timeout = some p.cut := by
      rw [timeout_restored, set, Option.map_some]
    exact checkTimeout_of_passed passes.timeout set set' rfl rfl (lasting p set)

/-- A draft with a timeout of no time at all is not built: its check reports the length before it
looks at anything else. -/
theorem nanoseconds_ne_zero (built : d.build = .ok r) {policy : TimeoutPolicy}
    (set : r.timeout = some policy) : policy.duration.nanoseconds ≠ 0 := by
  obtain ⟨key, passes, rfl⟩ := passes_of_build built
  have set : d.timeout = some policy := set
  have checked := passes.timeout
  simp only [checkTimeout, set, Duration.isZero] at checked
  intro zero
  simp [zero] at checked

end Draft

namespace Registration

variable {d : Draft} {r : Registration}

/-- A timeout of at least a millisecond is cut when the trial is built again. All checks pass a
second time, those of the trials, the keys and the window because a definition changes nothing of
what they look at, that of the timeout because something is left of it. -/
theorem ofDefinition_of_long (built : d.build = .ok r)
    (fits : ∀ policy, r.timeout = some policy → policy.duration.Fits)
    (long : ∀ policy, r.timeout = some policy → 1000000 ≤ policy.duration.nanoseconds) :
    ofDefinition r.toDefinition =
      .ok { r with timeout := r.timeout.map (·.cut), predicate := none } := by
  obtain ⟨key, passes, rfl⟩ := Draft.passes_of_build built
  have lasting (p : TimeoutPolicy) (set : d.timeout = some p) : p.duration.cut.isZero = false := by
    rw [← Bool.not_eq_true]
    exact mt (Duration.isZero_cut (fits p set)).mp (Nat.not_lt.mpr (long p set))
  have again : (d.restored key).Passes key :=
    ⟨passes.trials, Draft.checkDefault_restored passes, passes.onError,
      Draft.checkTimeout_restored passes lasting, passes.window⟩
  have restored := Draft.build_of_passes again
  rw [Draft.registration_restored] at restored
  exact restored

/-- A timeout of less than a millisecond is rejected when the trial is built again. Nothing is left
of it in the definition, and a timeout of no time at all fails its check. -/
theorem ofDefinition_of_short (built : d.build = .ok r) {policy : TimeoutPolicy}
    (set : r.timeout = some policy) (fits : policy.duration.Fits)
    (short : policy.duration.nanoseconds < 1000000) :
    ofDefinition r.toDefinition = .error .zeroTimeout := by
  obtain ⟨key, passes, rfl⟩ := Draft.passes_of_build built
  have set : d.timeout = some policy := set
  have set' : (d.restored key).timeout = some policy.cut := by
    rw [Draft.timeout_restored, set, Option.map_some]
  have trials : (d.restored key).checkTrials = .ok () := passes.trials
  have onError : (d.restored key).checkOnError = .ok () := passes.onError
  have zero : policy.cut.duration.isZero = true := (Duration.isZero_cut fits).mpr short
  have rejected : (d.restored key).checkTimeout = .error .zeroTimeout := by
    simp only [Draft.checkTimeout, set', zero, if_true]
  show (d.restored key).build = _
  simp only [Draft.build, trials, Draft.checkDefault_restored passes, onError, rejected, bind,
    Except.bind]

/-- A trial survives its declarative form. Built again from its own definition it is the same trial
without its predicate and with its timeout cut to whole milliseconds; the timeout too is the same
exactly if it is a whole number of them. A timeout of less than one millisecond has no declarative
form.

Proof: the checks that the trial has passed look at nothing that the definition leaves out, but for
the length of the timeout. So they pass again exactly if something is left of it, and what is built
then is what has been written down. -/
theorem survives_definition (built : d.build = .ok r)
    (fits : ∀ policy, r.timeout = some policy → policy.duration.Fits) :
    ((∀ policy, r.timeout = some policy → 1000000 ≤ policy.duration.nanoseconds) →
        ofDefinition r.toDefinition =
          .ok { r with timeout := r.timeout.map (·.cut), predicate := none }) ∧
      (ofDefinition r.toDefinition = .ok { r with predicate := none } ↔
        ∀ policy, r.timeout = some policy → 1000000 ∣ policy.duration.nanoseconds) ∧
      ((∃ policy, r.timeout = some policy ∧ policy.duration.nanoseconds < 1000000) →
        ofDefinition r.toDefinition = .error .zeroTimeout) := by
  refine ⟨ofDefinition_of_long built fits, ?_, ?_⟩
  · by_cases short : ∃ policy, r.timeout = some policy ∧ policy.duration.nanoseconds < 1000000
    · obtain ⟨policy, set, short⟩ := short
      rw [ofDefinition_of_short built set (fits policy set) short]
      constructor
      · intro impossible
        cases impossible
      · intro whole
        have some' := Draft.nanoseconds_ne_zero built set
        have divides := whole policy set
        omega
    · have long (policy : TimeoutPolicy) (set : r.timeout = some policy) :
          1000000 ≤ policy.duration.nanoseconds :=
        Nat.le_of_not_lt fun early => short ⟨policy, set, early⟩
      rw [ofDefinition_of_long built fits long, Except.ok.injEq]
      constructor
      · intro same policy set
        have kept : r.timeout.map (·.cut) = r.timeout := congrArg timeout same
        rw [set, Option.map_some, Option.some.injEq] at kept
        exact (Duration.cut_eq_self_iff (fits policy set)).mp (congrArg (·.duration) kept)
      · intro whole
        have kept : r.timeout.map (·.cut) = r.timeout := by
          cases set : r.timeout with
          | none => rfl
          | some policy =>
            have same := (Duration.cut_eq_self_iff (fits policy set)).mpr (whole policy set)
            rw [Option.map_some, TimeoutPolicy.cut, same]
        rw [kept]
  · rintro ⟨policy, set, short⟩
    exact ofDefinition_of_short built set (fits policy set) short

end Registration

/-! ### A trial with a deadline -/

/-- A trial of one implementation that accepts the calls of one method, with a deadline. -/
def boundedDraft (deadline : Duration) : Draft where
  service := "greeter"
  defaultKey := some "only"
  trials := [⟨"only", "good"⟩]
  timeout := some ⟨deadline, .fallbackToDefault, .firstAttempt⟩
  predicate := some (.methodIn ["call"])

/-- A deadline of a quarter of a second is kept. -/
theorem quarter_second_survives_definition :
    ∃ r, (boundedDraft (.ofMillis 250)).build = .ok r ∧
      r.timeout = some ⟨.ofMillis 250, .fallbackToDefault, .firstAttempt⟩ ∧
      Registration.ofDefinition r.toDefinition = .ok { r with predicate := none } := by
  obtain ⟨r, built, timeout⟩ : ∃ r, (boundedDraft (.ofMillis 250)).build = .ok r ∧
      r.timeout = some ⟨.ofMillis 250, .fallbackToDefault, .firstAttempt⟩ := ⟨_, rfl, rfl⟩
  have fits : ∀ policy, r.timeout = some policy → policy.duration.Fits := by
    rw [timeout]
    rintro _ ⟨⟩
    show 250000000 < UInt64.size * 1000000
    decide
  refine ⟨r, built, timeout, (Registration.survives_definition built fits).2.1.mpr ?_⟩
  rw [timeout]
  rintro _ ⟨⟩
  show 1000000 ∣ 250000000
  decide

/-- A deadline of half a millisecond is accepted, and rejected when the trial is built again
from its definition. -/
theorem half_millisecond_is_lost :
    ∃ r, (boundedDraft (.ofParts 0 500000)).build = .ok r ∧
      ¬ ∃ again, Registration.ofDefinition r.toDefinition = .ok again := by
  refine ⟨_, rfl, ?_⟩
  rintro ⟨again, impossible⟩
  cases impossible

end TrialRouting
