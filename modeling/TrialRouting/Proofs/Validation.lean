import Mathlib.Data.List.Induction
import Mathlib.Data.List.Nodup
import TrialRouting.Proofs.Definition.Normal

/-!
# Validation

A draft is built if and only if it keeps ten rules. They are stated here without the checks: as
properties of what the draft says, with the error that reports a draft that breaks one of them.
The rules come in a fixed order, and a draft that breaks several is reported by the first.

Two rules are about lists. The keys of the trials are looked at one after another, and the error
names what is wrong with the first that is empty or has come before. The keys of an ordered error
policy are looked at in their own order.
-/

namespace TrialRouting

namespace Draft

/-- The rules for a draft, in the order in which they are checked. -/
inductive Rule where
  /-- There is a trial. -/
  | someTrials
  /-- The trial keys are not empty, and no two are the same. -/
  | properKeys
  /-- There is a default key. -/
  | defaultSet
  /-- The default key is a trial key. -/
  | defaultKnown
  /-- The one key of an error policy is a trial key. -/
  | redirectKnown
  /-- An ordered error policy names a key. -/
  | orderedSome
  /-- An ordered error policy names trial keys. -/
  | orderedKnown
  /-- A deadline leaves some time. -/
  | timeoutPositive
  /-- The key of a timeout action is a trial key. -/
  | timeoutKnown
  /-- The window does not start after it ends. -/
  | windowOrdered

/-- The place of a rule among the others. -/
def Rule.position : Rule → Nat
  | someTrials => 0
  | properKeys => 1
  | defaultSet => 2
  | defaultKnown => 3
  | redirectKnown => 4
  | orderedSome => 5
  | orderedKnown => 6
  | timeoutPositive => 7
  | timeoutKnown => 8
  | windowOrdered => 9

/-- The keys are not empty, and no two are the same. -/
structure Proper (keys : List String) : Prop where
  filled : ∀ key ∈ keys, key ≠ ""
  once : keys.Nodup

/-- What a rule asks of a draft. -/
def Keeps (d : Draft) : Rule → Prop
  | .someTrials => d.trials ≠ []
  | .properKeys => Proper d.keys
  | .defaultSet => d.defaultKey ≠ none
  | .defaultKnown => ∀ key, d.defaultKey = some key → key ∈ d.keys
  | .redirectKnown => ∀ key, d.onError = .redirectToSpecific key → key ∈ d.keys
  | .orderedSome => d.onError ≠ .redirectOrdered []
  | .orderedKnown => ∀ keys, d.onError = .redirectOrdered keys → ∀ key ∈ keys, key ∈ d.keys
  | .timeoutPositive => ∀ policy, d.timeout = some policy → 0 < policy.duration.nanoseconds
  | .timeoutKnown => ∀ policy key, d.timeout = some policy →
      policy.action = .fallbackToSpecific key → key ∈ d.keys
  | .windowOrdered => ∀ start finish, d.window.start = some start →
      d.window.finish = some finish → start ≤ finish

/-- What a draft that breaks a rule is reported with. -/
inductive Breaks (d : Draft) : Rule → RegistrationError → Prop where
  | someTrials (none : d.trials = []) : Breaks d .someTrials (.emptyTrials d.service)
  /-- The first key with something wrong with it is empty. -/
  | emptyKey {before after : List String} (split : d.keys = before ++ "" :: after)
      (proper : Proper before) : Breaks d .properKeys .emptyKey
  /-- The first key with something wrong with it is one of those before it. -/
  | duplicateKey {before after : List String} {key : String}
      (split : d.keys = before ++ key :: after) (proper : Proper before) (known : key ∈ before) :
      Breaks d .properKeys (.duplicateKey key)
  | defaultSet (unset : d.defaultKey = none) :
      Breaks d .defaultSet (.missingDefaultKey d.service)
  | defaultKnown {key : String} (set : d.defaultKey = some key) (unknown : key ∉ d.keys) :
      Breaks d .defaultKnown (.unknownDefaultKey key)
  | redirectKnown {key : String} (policy : d.onError = .redirectToSpecific key)
      (unknown : key ∉ d.keys) : Breaks d .redirectKnown (.unknownFallbackKey key)
  | orderedSome (policy : d.onError = .redirectOrdered []) :
      Breaks d .orderedSome .emptyFallbackList
  /-- The first key of the list that is not a trial key is named. -/
  | orderedKnown {before after : List String} {key : String}
      (policy : d.onError = .redirectOrdered (before ++ key :: after))
      (known : ∀ other ∈ before, other ∈ d.keys) (unknown : key ∉ d.keys) :
      Breaks d .orderedKnown (.unknownFallbackKey key)
  | timeoutPositive {policy : TimeoutPolicy} (set : d.timeout = some policy)
      (zero : policy.duration.nanoseconds = 0) : Breaks d .timeoutPositive .zeroTimeout
  | timeoutKnown {policy : TimeoutPolicy} {key : String} (set : d.timeout = some policy)
      (action : policy.action = .fallbackToSpecific key) (unknown : key ∉ d.keys) :
      Breaks d .timeoutKnown (.unknownTimeoutFallbackKey key)
  | windowOrdered {start finish : UInt64} (starts : d.window.start = some start)
      (ends : d.window.finish = some finish) (inverted : finish < start) :
      Breaks d .windowOrdered (.invertedWindow start finish)

/-- A draft is reported with an error: it is that of the first rule that the draft breaks. -/
def Reports (d : Draft) (e : RegistrationError) : Prop :=
  ∃ rule, d.Breaks rule e ∧
    ∀ earlier : Rule, earlier.position < rule.position → d.Keeps earlier

variable {d : Draft} {rule : Rule} {e : RegistrationError} {r : Registration}
  {keys before after seen : List String} {key : String}

/-! ### The keys of the trials -/

/-- No keys are proper. -/
theorem Proper.nil : Proper [] := ⟨fun _ impossible => absurd impossible List.not_mem_nil, .nil⟩

/-- A further key has to be filled and new. Keys are looked at from the first to the last, so that a
list of proper keys grows at its end. -/
theorem proper_concat : Proper (keys ++ [key]) ↔ Proper keys ∧ key ≠ "" ∧ key ∉ keys := by
  constructor
  · intro proper
    obtain ⟨once, -, apart⟩ := List.nodup_append.mp proper.once
    refine ⟨⟨fun other member => proper.filled other (List.mem_append_left _ member), once⟩,
      proper.filled key (by simp), fun known => ?_⟩
    exact apart key known key (List.mem_singleton_self key) rfl
  · rintro ⟨proper, filled, new⟩
    refine ⟨?_, List.nodup_append.mpr ⟨proper.once, List.nodup_singleton key, ?_⟩⟩
    · intro other member
      rcases List.mem_append.mp member with earlier | last
      · exact proper.filled other earlier
      · exact List.mem_singleton.mp last ▸ filled
    · rintro other known _ single rfl
      exact new (List.mem_singleton.mp single ▸ known)

/-- Of keys that are not proper one is the first that is empty or has come before. Those before it
are proper, and this is what the check has seen when it comes to it. -/
theorem exists_first_improper (improper : ¬ Proper keys) :
    ∃ before key after, keys = before ++ key :: after ∧ Proper before ∧
      (key = "" ∨ key ∈ before) := by
  induction keys using List.reverseRecOn with
  | nil => exact absurd Proper.nil improper
  | append_singleton keys key ih =>
    by_cases proper : Proper keys
    · refine ⟨keys, key, [], rfl, proper, ?_⟩
      by_contra wrong
      obtain ⟨filled, new⟩ := not_or.mp wrong
      exact improper (proper_concat.mpr ⟨proper, filled, new⟩)
    · obtain ⟨before, first, after, split, proper, wrong⟩ := ih proper
      exact ⟨before, first, after ++ [key], by rw [split, List.append_assoc, List.cons_append],
        proper, wrong⟩

/-- Keys that have nothing wrong with them are passed over, and remembered. The check keeps what it
has seen latest first, which is why they come out reversed. -/
theorem checkKeys_append (proper : Proper before) (new : ∀ key ∈ before, key ∉ seen)
    (rest : List String) :
    checkKeys seen (before ++ rest) = checkKeys (before.reverse ++ seen) rest := by
  induction before generalizing seen with
  | nil => rfl
  | cons key later ih =>
    obtain ⟨unseen, others⟩ := List.forall_mem_cons.mp new
    obtain ⟨filled, all⟩ := List.forall_mem_cons.mp proper.filled
    obtain ⟨apart, once⟩ := List.nodup_cons.mp proper.once
    have goesOn : checkKeys seen (key :: (later ++ rest)) =
        checkKeys (key :: seen) (later ++ rest) := by
      simp [checkKeys, filled, unseen]
    rw [List.cons_append, goesOn, ih ⟨all, once⟩, List.reverse_cons, List.append_assoc,
      List.singleton_append]
    intro other member again
    rcases List.mem_cons.mp again with rfl | earlier
    · exact apart member
    · exact others other member earlier

/-- Proper keys pass their check. -/
theorem checkKeys_of_proper (proper : Proper keys) : checkKeys [] keys = .ok () := by
  have fresh : ∀ key ∈ keys, key ∉ ([] : List String) := fun _ _ => List.not_mem_nil
  have passed := checkKeys_append proper fresh []
  rw [List.append_nil] at passed
  exact passed

/-- A key that is the first to be empty fails the check. -/
theorem checkKeys_of_empty (proper : Proper before) :
    checkKeys [] (before ++ "" :: after) = .error .emptyKey := by
  rw [checkKeys_append proper (fun _ _ => List.not_mem_nil)]
  rfl

/-- So does one that is the first to have come before, under its own name: it is not empty, since
none of those before it is. -/
theorem checkKeys_of_known (proper : Proper before) (known : key ∈ before) :
    checkKeys [] (before ++ key :: after) = .error (.duplicateKey key) := by
  rw [checkKeys_append proper (fun _ _ => List.not_mem_nil)]
  simp [checkKeys, proper.filled key known, known]

/-! ### The checks of a draft that keeps the rules -/

theorem checkTrials_of_keeps (some : d.Keeps .someTrials) (proper : d.Keeps .properKeys) :
    d.checkTrials = .ok () := by
  rw [checkTrials, if_neg (mt List.isEmpty_iff.mp some)]
  exact checkKeys_of_proper proper

theorem checkDefault_of_keeps (set : d.Keeps .defaultSet) (known : d.Keeps .defaultKnown) :
    ∃ key, d.defaultKey = some key ∧ d.checkDefault = .ok key := by
  obtain ⟨key, default⟩ := Option.ne_none_iff_exists'.mp set
  refine ⟨key, default, ?_⟩
  simp only [checkDefault, default, List.contains_iff_mem.mpr (known key default), if_true]

theorem checkOnError_of_keeps (redirect : d.Keeps .redirectKnown) (some : d.Keeps .orderedSome)
    (ordered : d.Keeps .orderedKnown) : d.checkOnError = .ok () := by
  unfold checkOnError
  split
  · next key policy => rw [if_pos (List.contains_iff_mem.mpr (redirect key policy))]
  · next policy => exact absurd policy some
  · next keys _ policy =>
    have unknown : keys.find? (!d.keys.contains ·) = none := by
      rw [List.find?_eq_none]
      intro key member
      simpa using ordered keys policy key member
    rw [unknown]
  · rfl

theorem checkTimeout_of_keeps (positive : d.Keeps .timeoutPositive)
    (known : d.Keeps .timeoutKnown) : d.checkTimeout = .ok () := by
  unfold checkTimeout
  split
  · rfl
  · next policy set =>
    have some : policy.duration.isZero = false :=
      beq_eq_false_iff_ne.mpr (Nat.ne_of_gt (positive policy set))
    rw [some, if_neg Bool.false_ne_true]
    split
    · next key action => rw [if_pos (List.contains_iff_mem.mpr (known policy key set action))]
    · rfl

theorem checkWindow_of_keeps (ordered : d.Keeps .windowOrdered) : d.checkWindow = .ok () := by
  have upright : d.window.inverted? = none := by
    unfold Window.inverted?
    split
    · next start finish starts ends =>
      exact if_neg (UInt64.not_lt.mpr (ordered start finish starts ends))
    · rfl
  rw [checkWindow, upright]

/-! ### Exactness -/

/-- A draft that keeps all rules is built. Every check is about one or a few of the rules, and
passes if they are kept; the default key that the rules ask for is the one of the trial. -/
theorem build_of_keeps (kept : ∀ rule, d.Keeps rule) :
    ∃ key, d.defaultKey = some key ∧ d.build = .ok (d.registration key) := by
  obtain ⟨key, default, checked⟩ :=
    checkDefault_of_keeps (kept .defaultSet) (kept .defaultKnown)
  exact ⟨key, default, build_of_passes
    ⟨checkTrials_of_keeps (kept _) (kept _), checked,
      checkOnError_of_keeps (kept _) (kept _) (kept _),
      checkTimeout_of_keeps (kept _) (kept _), checkWindow_of_keeps (kept _)⟩⟩

/-- A draft fails with the error of the first rule that it breaks. The checks before the one that
fails have passed, since their rules are kept. Within a check the rules are looked at in their order
too, so that each way of breaking a rule is a case of its own: the checks before it are discharged,
and the one it is about is computed. -/
theorem build_of_breaks (broken : d.Breaks rule e)
    (kept : ∀ earlier : Rule, earlier.position < rule.position → d.Keeps earlier) :
    d.build = .error e := by
  have trials (after : Rule.properKeys.position < rule.position) : d.checkTrials = .ok () :=
    checkTrials_of_keeps (kept _ (Nat.lt_trans (by decide) after)) (kept _ after)
  have byDefault (after : Rule.defaultKnown.position < rule.position) :
      ∃ key, d.checkDefault = .ok key := by
    obtain ⟨key, -, checked⟩ :=
      checkDefault_of_keeps (kept _ (Nat.lt_trans (by decide) after)) (kept _ after)
    exact ⟨key, checked⟩
  have onError (after : Rule.orderedKnown.position < rule.position) : d.checkOnError = .ok () :=
    checkOnError_of_keeps (kept _ (Nat.lt_trans (by decide) after))
      (kept _ (Nat.lt_trans (by decide) after)) (kept _ after)
  have timeout (after : Rule.timeoutKnown.position < rule.position) :
      d.checkTimeout = .ok () :=
    checkTimeout_of_keeps (kept _ (Nat.lt_trans (by decide) after)) (kept _ after)
  cases broken with
  | someTrials none =>
    have checked : d.checkTrials = .error (.emptyTrials d.service) := by
      rw [checkTrials, none]
      rfl
    rw [build, checked]
    rfl
  | emptyKey split proper =>
    have checked : d.checkTrials = .error .emptyKey := by
      rw [checkTrials, if_neg (mt List.isEmpty_iff.mp (kept .someTrials (by decide))), split,
        checkKeys_of_empty proper]
    rw [build, checked]
    rfl
  | @duplicateKey before after key split proper known =>
    have checked : d.checkTrials = .error (.duplicateKey key) := by
      rw [checkTrials, if_neg (mt List.isEmpty_iff.mp (kept .someTrials (by decide))), split,
        checkKeys_of_known proper known]
    rw [build, checked]
    rfl
  | defaultSet unset =>
    have checked : d.checkDefault = .error (.missingDefaultKey d.service) := by
      rw [checkDefault, unset]
    rw [build, trials (by decide), checked]
    rfl
  | @defaultKnown key set unknown =>
    have checked : d.checkDefault = .error (.unknownDefaultKey key) := by
      simp only [checkDefault, set, List.contains_iff_mem, unknown, if_false]
    rw [build, trials (by decide), checked]
    rfl
  | @redirectKnown key policy unknown =>
    obtain ⟨_, found⟩ := byDefault (by decide)
    have checked : d.checkOnError = .error (.unknownFallbackKey key) := by
      simp only [checkOnError, policy, List.contains_iff_mem, unknown, if_false]
    rw [build, trials (by decide), found, checked]
    rfl
  | orderedSome policy =>
    obtain ⟨_, found⟩ := byDefault (by decide)
    have checked : d.checkOnError = .error .emptyFallbackList := by
      simp only [checkOnError, policy]
    rw [build, trials (by decide), found, checked]
    rfl
  | @orderedKnown before after key policy known unknown =>
    obtain ⟨_, found⟩ := byDefault (by decide)
    have checked : d.checkOnError = .error (.unknownFallbackKey key) := by
      have first : (before ++ key :: after).find? (!d.keys.contains ·) = some key := by
        rw [List.find?_append, List.find?_eq_none.mpr fun other member => by
          simpa using known other member, Option.none_or, List.find?_cons_of_pos]
        simpa using unknown
      cases before with
      | nil =>
        simp only [List.nil_append] at policy first
        simp only [checkOnError, policy, first]
      | cons other before =>
        simp only [List.cons_append] at policy first
        simp only [checkOnError, policy, first]
    rw [build, trials (by decide), found, checked]
    rfl
  | @timeoutPositive policy set zero =>
    obtain ⟨_, found⟩ := byDefault (by decide)
    have checked : d.checkTimeout = .error .zeroTimeout := by
      simp only [checkTimeout, set, Duration.isZero, zero, beq_self_eq_true, if_true]
    rw [build, trials (by decide), found, onError (by decide), checked]
    rfl
  | @timeoutKnown policy key set action unknown =>
    obtain ⟨_, found⟩ := byDefault (by decide)
    have checked : d.checkTimeout = .error (.unknownTimeoutFallbackKey key) := by
      have positive : 0 < policy.duration.nanoseconds := kept .timeoutPositive (by decide) _ set
      simp only [checkTimeout, set, Duration.isZero, beq_iff_eq, Nat.ne_of_gt positive, action,
        List.contains_iff_mem, unknown, if_false]
    rw [build, trials (by decide), found, onError (by decide), checked]
    rfl
  | @windowOrdered start finish starts ends inverted =>
    obtain ⟨_, found⟩ := byDefault (by decide)
    have checked : d.checkWindow = .error (.invertedWindow start finish) := by
      simp only [checkWindow, Window.inverted?, starts, ends, inverted, if_true]
    rw [build, trials (by decide), found, onError (by decide), timeout (by decide), checked]
    rfl

/-- A rule that is not kept is broken in some way that is reported. For the rules about lists the
culprit is the first item that has something wrong with it, and has to be found; for the others the
negation of the rule names it. -/
theorem exists_breaks (unkept : ¬ d.Keeps rule) : ∃ e, d.Breaks rule e := by
  cases rule with
  | someTrials => exact ⟨_, .someTrials (not_not.mp unkept)⟩
  | properKeys =>
    obtain ⟨before, key, after, split, proper, rfl | known⟩ := exists_first_improper unkept
    · exact ⟨_, .emptyKey split proper⟩
    · exact ⟨_, .duplicateKey split proper known⟩
  | defaultSet => exact ⟨_, .defaultSet (not_not.mp unkept)⟩
  | defaultKnown =>
    obtain ⟨key, wrong⟩ := not_forall.mp unkept
    obtain ⟨set, unknown⟩ := Classical.not_imp.mp wrong
    exact ⟨_, .defaultKnown set unknown⟩
  | redirectKnown =>
    obtain ⟨key, wrong⟩ := not_forall.mp unkept
    obtain ⟨policy, unknown⟩ := Classical.not_imp.mp wrong
    exact ⟨_, .redirectKnown policy unknown⟩
  | orderedSome => exact ⟨_, .orderedSome (not_not.mp unkept)⟩
  | orderedKnown =>
    obtain ⟨keys, wrong⟩ := not_forall.mp unkept
    obtain ⟨policy, unknown⟩ := Classical.not_imp.mp wrong
    cases first : keys.find? (!d.keys.contains ·) with
    | none =>
      refine absurd (fun key member => ?_) unknown
      simpa using List.find?_eq_none.mp first key member
    | some key =>
      obtain ⟨unlisted, before, after, rfl, known⟩ := List.find?_eq_some_iff_append.mp first
      refine ⟨_, .orderedKnown policy (fun other member => ?_) ?_⟩
      · simpa using known other member
      · simpa using unlisted
  | timeoutPositive =>
    obtain ⟨policy, wrong⟩ := not_forall.mp unkept
    obtain ⟨set, zero⟩ := Classical.not_imp.mp wrong
    exact ⟨_, .timeoutPositive set (Nat.eq_zero_of_not_pos zero)⟩
  | timeoutKnown =>
    obtain ⟨policy, wrong⟩ := not_forall.mp unkept
    obtain ⟨key, wrong⟩ := not_forall.mp wrong
    obtain ⟨set, wrong⟩ := Classical.not_imp.mp wrong
    obtain ⟨action, unknown⟩ := Classical.not_imp.mp wrong
    exact ⟨_, .timeoutKnown set action unknown⟩
  | windowOrdered =>
    obtain ⟨start, wrong⟩ := not_forall.mp unkept
    obtain ⟨finish, wrong⟩ := not_forall.mp wrong
    obtain ⟨starts, wrong⟩ := Classical.not_imp.mp wrong
    obtain ⟨ends, inverted⟩ := Classical.not_imp.mp wrong
    exact ⟨_, .windowOrdered starts ends (UInt64.not_le.mp inverted)⟩

/-- A rule that is broken is not kept. This is what makes an error evidence: each way of breaking a
rule contradicts the rule itself, without any regard to the checks. -/
theorem Breaks.not_keeps (broken : d.Breaks rule e) : ¬ d.Keeps rule := by
  intro kept
  cases broken with
  | someTrials none => exact kept none
  | emptyKey split proper => exact kept.filled "" (by rw [split]; simp) rfl
  | duplicateKey split proper known =>
    have once : (_ ++ _ :: _).Nodup := split ▸ kept.once
    exact (List.nodup_append.mp once).2.2 _ known _ List.mem_cons_self rfl
  | defaultSet unset => exact kept unset
  | defaultKnown set unknown => exact unknown (kept _ set)
  | redirectKnown policy unknown => exact unknown (kept _ policy)
  | orderedSome policy => exact kept policy
  | orderedKnown policy known unknown => exact unknown (kept _ policy _ (by simp))
  | timeoutPositive set zero => exact Nat.ne_of_gt (kept _ set) zero
  | timeoutKnown set action unknown => exact unknown (kept _ _ set action)
  | windowOrdered starts ends inverted =>
    exact UInt64.not_lt.mpr (kept _ _ starts ends) inverted

/-- A draft keeps all rules, or there is a first one that it breaks. Proof: suppose that none is the
first. Then every rule is kept, by induction on its place: if those before it are kept, it cannot be
broken without being the first that is. -/
theorem keeps_or_reports (d : Draft) : (∀ rule, d.Keeps rule) ∨ ∃ e, d.Reports e := by
  by_cases reported : ∃ e, d.Reports e
  · exact .inr reported
  · refine .inl fun rule => ?_
    induction place : rule.position using Nat.strongRecOn generalizing rule with
    | _ n ih =>
      by_contra unkept
      obtain ⟨e, broken⟩ := exists_breaks unkept
      exact reported ⟨e, rule, broken, fun earlier before => ih _ (place ▸ before) earlier rfl⟩

/-- What is built answers for each key as the draft's list of trials says. -/
structure Answers (d : Draft) (r : Registration) : Prop where
  /-- The rest of the draft goes over as it is. -/
  same : r = d.registration r.defaultKey
  default : d.defaultKey = some r.defaultKey
  keys : r.keys = d.trials.map (·.key)
  once : r.keys.Nodup
  contains : ∀ key, r.contains key = true ↔ key ∈ r.keys
  present : ∀ key, (r.trial? key).isSome = true ↔ key ∈ r.keys
  /-- The trial of a key is the one that has been added under it. -/
  trial : ∀ key t, r.trial? key = some t ↔ t ∈ d.trials ∧ t.key = key

/-- Since the keys are distinct, looking for the trial of a key finds the only one there is. So a
registration answers for each of its keys with the very trial that was added under it, wherever in
the list that trial stands. -/
theorem answers_of_keeps (kept : ∀ rule, d.Keeps rule) {key : String}
    (default : d.defaultKey = some key) : d.Answers (d.registration key) where
  same := rfl
  default := default
  keys := rfl
  once := (kept .properKeys).once
  contains := fun _ => List.contains_iff_mem
  present := fun key => by
    constructor
    · intro present
      obtain ⟨t, found⟩ := Option.isSome_iff_exists.mp present
      have named : t.key = key := by simpa using List.find?_some found
      exact List.mem_map.mpr ⟨t, List.mem_of_find?_eq_some found, named⟩
    · intro member
      exact Option.isSome_iff_exists.mpr (Registration.exists_trial _ member)
  trial := fun key t => by
    constructor
    · intro found
      exact ⟨List.mem_of_find?_eq_some found, by simpa using List.find?_some found⟩
    · rintro ⟨member, rfl⟩
      obtain ⟨other, found⟩ :=
        Registration.exists_trial (d.registration _) (List.mem_map.mpr ⟨t, member, rfl⟩)
      have named : other.key = t.key := by simpa using List.find?_some found
      have same := List.inj_on_of_nodup_map (kept .properKeys).once
        (List.mem_of_find?_eq_some found) member named
      rw [found, same]

/-- The checks are exact: they let through what keeps the rules, and nothing else. -/
structure Validated (d : Draft) : Prop where
  succeeds : (∃ r, d.build = .ok r) ↔ ∀ rule, d.Keeps rule
  fails : ∀ e, d.build = .error e ↔ d.Reports e
  broken : ∀ rule, (∃ e, d.Breaks rule e) ↔ ¬ d.Keeps rule
  answers : ∀ r, d.build = .ok r → d.Answers r

/-- Whatever steps a draft is told, it is built if and only if what it has been told last keeps all
rules, and otherwise it is reported with the first rule that it breaks.

Proof: the checks let through whatever keeps the rules, and fail with the error of the first rule
broken. A draft does one or the other, and neither leaves room for the second, so both implications
turn round. -/
theorem validates_steps (service : String) (steps : List Step) :
    (({ service := service } : Draft).applyAll steps).ToldBy service steps ∧
      (({ service := service } : Draft).applyAll steps).Validated := by
  refine ⟨toldBy_applyAll service steps, ?_⟩
  generalize ({ service := service } : Draft).applyAll steps = d
  have broken (rule : Rule) : (∃ e, d.Breaks rule e) ↔ ¬ d.Keeps rule :=
    ⟨fun ⟨_, breaks⟩ => breaks.not_keeps, exists_breaks⟩
  rcases d.keeps_or_reports with kept | ⟨e, rule, breaks, earlier⟩
  · obtain ⟨key, default, built⟩ := build_of_keeps kept
    refine ⟨⟨fun _ => kept, fun _ => ⟨_, built⟩⟩, fun e => ?_, broken, fun r same => ?_⟩
    · rw [built]
      exact ⟨(fun impossible => nomatch impossible),
        fun ⟨rule, breaks, _⟩ => absurd (kept rule) breaks.not_keeps⟩
    · cases built.symm.trans same
      exact answers_of_keeps kept default
  · have failed := build_of_breaks breaks earlier
    refine ⟨?_, fun f => ⟨fun same => ?_, fun ⟨_, other, before⟩ => build_of_breaks other before⟩,
      broken, fun r built => ?_⟩
    · rw [failed]
      exact ⟨(fun ⟨_, impossible⟩ => nomatch impossible),
        fun kept => absurd (kept rule) breaks.not_keeps⟩
    · cases failed.symm.trans same
      exact ⟨rule, breaks, earlier⟩
    · cases failed.symm.trans built

/-- Of several things that are wrong the first is reported. -/
example : (({ service := "search" } : Draft).applyAll
    [.trial ⟨"a", "first"⟩, .timeout ⟨⟨0⟩, .throw, .wholeSequence⟩, .trial ⟨"a", "second"⟩,
      .trial ⟨"", "third"⟩, .defaultKey "b"]).build = .error (.duplicateKey "a") := rfl

end Draft

end TrialRouting
