import Mathlib.Algebra.GroupWithZero.Nat
import Mathlib.Data.List.Nodup
import TrialRouting.Telemetry

/-!
# The minutes of a telemetry

Calls that overlap report to scopes of their own, and a provider hears all reports in one
sequence. The minutes sort them by scope: for each scope that has been started, the reports
made to it, in order. They agree with what was heard if no two scopes have the same number,
if every report that was heard is in the minutes, and if the reports heard with the number
of a scope are those of its account.

A new scope takes the next number; `Minutes.opens` and `Minutes.adds` show that starting a
scope and reporting to one keep the minutes in agreement, wherever in the sequence the
reports of the other scopes stand.
-/

namespace TrialRouting.Telemetry

/-- A report together with the scope it is made to. -/
abbrev Utterance := Scope × Report

/-- What reports add to the metrics. -/
def sampled (added : List Utterance) : List Sample :=
  added.flatMap fun (scope, r) => r.samples scope

/-- How much a counter comes to, over all its labels. -/
def total (name : String) (samples : List Sample) : Nat :=
  samples.countP (·.name == name)

/-- What one call has reported. -/
structure Account where
  scope : Scope
  /-- The keys it has come to, in order. -/
  keys : List String
  reports : List Report
  deriving DecidableEq, Repr

/-- The reports of an account, each with the scope it was made to. -/
def Account.utterances (a : Account) : List Utterance :=
  a.reports.map (a.scope, ·)

/-- What was heard from the scope of a given number. -/
def heardFrom (number : Nat) (spoken : List Utterance) : List Utterance :=
  spoken.filter (·.1.number == number)

/-- The accounts of the scopes that have been started since the number `first`, when `next` is
the number of the next one, agree with what was heard. -/
structure Minutes (first next : Nat) (spoken : List Utterance) (accounts : List Account) :
    Prop where
  distinct : (accounts.map (·.scope.number)).Nodup
  numbers : ∀ a ∈ accounts, first ≤ a.scope.number ∧ a.scope.number < next
  own : ∀ a ∈ accounts, heardFrom a.scope.number spoken = a.utterances
  whole : spoken.Perm (accounts.flatMap (·.utterances))
  onwards : first ≤ next

/-- What was heard first and what was heard then. -/
theorem heardFrom_append (number : Nat) (before after : List Utterance) :
    heardFrom number (before ++ after) = heardFrom number before ++ heardFrom number after :=
  List.filter_append ..

/-- All that an account says is heard from its scope. -/
theorem heardFrom_self (scope : Scope) (reports : List Report) :
    heardFrom scope.number (reports.map (scope, ·)) = reports.map (scope, ·) := by
  refine List.filter_eq_self.mpr ?_
  intro u member
  obtain ⟨r, -, rfl⟩ := List.mem_map.mp member
  simp

/-- Nothing that an account says is heard from another scope. An account makes all its reports to
one scope, so that a number that is not that scope's picks none of them. -/
theorem heardFrom_of_ne {scope : Scope} {number : Nat} (other : scope.number ≠ number)
    (reports : List Report) : heardFrom number (reports.map (scope, ·)) = [] := by
  refine List.filter_eq_nil_iff.mpr ?_
  intro u member
  obtain ⟨r, -, rfl⟩ := List.mem_map.mp member
  simpa using other

/-- A counter comes to what the samples before and after come to. -/
theorem total_append (name : String) (before after : List Sample) :
    total name (before ++ after) = total name before + total name after :=
  List.countP_append

/-- A counter comes to the sum over the accounts, in whatever order they were heard. Counting does
not look at the order, and each report adds its own samples and no others. -/
theorem total_sampled (name : String) {spoken : List Utterance} {accounts : List Account}
    (whole : spoken.Perm (accounts.flatMap (·.utterances))) :
    total name (sampled spoken) =
      (accounts.map fun a => total name (sampled a.utterances)).sum := by
  have sorted : total name (sampled spoken) =
      total name (sampled (accounts.flatMap (·.utterances))) :=
    (whole.flatMap_right _).countP_eq _
  rw [sorted, sampled, List.flatMap_assoc, total, List.countP_flatMap]
  rfl

namespace Minutes

variable {first next : Nat} {spoken : List Utterance} {before after : List Account}

/-- No scope has been started yet. -/
theorem nil (first : Nat) : Minutes first first [] [] where
  distinct := List.nodup_nil
  numbers := fun _ impossible => absurd impossible List.not_mem_nil
  own := fun _ impossible => absurd impossible List.not_mem_nil
  whole := .refl _
  onwards := Nat.le_refl _

/-- Whatever was heard was heard from a scope that has been started. So the number of the next one
is new to everybody, and nothing has been heard from it. -/
theorem number_lt {accounts : List Account} (minutes : Minutes first next spoken accounts)
    {u : Utterance} (heard : u ∈ spoken) : u.1.number < next := by
  obtain ⟨a, member, own⟩ := List.mem_flatMap.mp (minutes.whole.subset heard)
  obtain ⟨r, -, rfl⟩ := List.mem_map.mp own
  exact (minutes.numbers a member).2

/-- A scope is started, and the first reports are made to it. Its number is larger than that of
every other, so that what was heard before is not from it, and what is heard now is from none of the
others. -/
theorem opens (minutes : Minutes first next spoken (before ++ after)) (a : Account)
    (number : a.scope.number = next) :
    Minutes first (next + 1) (spoken ++ a.utterances) (before ++ a :: after) := by
  have inserted : (before ++ a :: after).Perm (a :: (before ++ after)) := List.perm_middle
  refine ⟨?_, ?_, ?_, ?_, Nat.le_succ_of_le minutes.onwards⟩
  · refine ((inserted.map _).nodup_iff).mpr (List.nodup_cons.mpr ⟨?_, minutes.distinct⟩)
    intro used
    obtain ⟨b, member, same⟩ := List.mem_map.mp used
    have known : b.scope.number < next := (minutes.numbers b member).2
    have same : b.scope.number = a.scope.number := same
    omega
  · intro b member
    rcases List.mem_cons.mp (inserted.subset member) with rfl | old
    · have onwards := minutes.onwards
      omega
    · have bounds := minutes.numbers b old
      omega
  · intro b member
    rw [heardFrom_append]
    rcases List.mem_cons.mp (inserted.subset member) with rfl | old
    · have unheard : heardFrom b.scope.number spoken = [] := by
        refine List.filter_eq_nil_iff.mpr ?_
        intro u heard
        have known := minutes.number_lt heard
        simp only [beq_iff_eq]
        omega
      rw [unheard, List.nil_append]
      exact heardFrom_self b.scope b.reports
    · have other : a.scope.number ≠ b.scope.number := by
        have known := (minutes.numbers b old).2
        omega
      have unheard : heardFrom b.scope.number a.utterances = [] := heardFrom_of_ne other a.reports
      rw [minutes.own b old, unheard, List.append_nil]
  · have sorted : (spoken ++ a.utterances).Perm
        (a.utterances ++ (before ++ after).flatMap (·.utterances)) :=
      List.perm_append_comm.trans (minutes.whole.append_left _)
    exact sorted.trans (inserted.symm.flatMap_right _)

/-- Further reports are made to a scope. They are heard from it alone, since no other scope has its
number; so they belong at the end of its account, wherever the reports to the others stand in the
sequence. -/
theorem adds {a : Account} (minutes : Minutes first next spoken (before ++ a :: after))
    (keys : List String) (added : List Report) :
    Minutes first next (spoken ++ added.map (a.scope, ·))
      (before ++ { a with keys, reports := a.reports ++ added } :: after) := by
  have others {b : Account} (old : b ∈ before ∨ b ∈ after) :
      a.scope.number ≠ b.scope.number ∧ b ∈ before ++ a :: after := by
    have distinct : ((a :: (before ++ after)).map (·.scope.number)).Nodup :=
      ((List.perm_middle.map _).nodup_iff).mp minutes.distinct
    have apart := (List.nodup_cons.mp distinct).1
    refine ⟨fun same => apart ?_, by simpa using old.imp_right .inr⟩
    exact List.mem_map.mpr ⟨b, List.mem_append.mpr old, same.symm⟩
  have mine : a ∈ before ++ a :: after := List.mem_append_right _ List.mem_cons_self
  refine ⟨by simpa using minutes.distinct, ?_, ?_, ?_, minutes.onwards⟩
  · intro b member
    rcases List.mem_append.mp member with old | new
    · exact minutes.numbers b (others (.inl old)).2
    · rcases List.mem_cons.mp new with rfl | old
      · exact minutes.numbers a mine
      · exact minutes.numbers b (others (.inr old)).2
  · intro b member
    rw [heardFrom_append]
    have unchanged (old : b ∈ before ∨ b ∈ after) : heardFrom b.scope.number spoken ++
        heardFrom b.scope.number (added.map (a.scope, ·)) = b.utterances := by
      rw [minutes.own b (others old).2, heardFrom_of_ne (others old).1, List.append_nil]
    rcases List.mem_append.mp member with old | new
    · exact unchanged (.inl old)
    · rcases List.mem_cons.mp new with rfl | old
      · rw [minutes.own a mine, heardFrom_self, Account.utterances, Account.utterances,
          List.map_append]
      · exact unchanged (.inr old)
  · have moved : ((before ++ a :: after).flatMap (·.utterances) ++
        added.map (a.scope, ·)).Perm
        ((before ++ { a with keys, reports := a.reports ++ added } :: after).flatMap
          (·.utterances)) := by
      simp only [List.flatMap_append, List.flatMap_cons, Account.utterances, List.map_append,
        List.append_assoc]
      exact (List.perm_append_comm.append_left _).append_left _
    exact (minutes.whole.append_right _).trans moved

end Minutes

end TrialRouting.Telemetry
