import TrialRouting.Proofs.Attempt.Timers
import TrialRouting.Proofs.Overlap.Twins

/-!
# Attempts of two runs

An attempt whose decorators only watch it and bound its time reads nothing that another call
changes. In two runs that meet it is entered, resumed and taken down alike: the proofs go
through the decorators that are still to be entered, and through those that both flights are
inside of.

What makes an attempt wait is found in its own flight: as long as none of its timers has come
and its work has not been cancelled, resuming it does nothing.
-/

namespace TrialRouting

/-- A decorator that watches an attempt or bounds its time, and does nothing else. Circuits and
limits are shared by all calls, so they are none of these. -/
def Decorator.IsPlain : Decorator → Prop
  | .logging _ => True
  | .timeout _ => True
  | _ => False

/-- Flights inside the same plain decorators that wait for the same. -/
inductive Flight.Alike (R : Pairing) : Flight → Flight → Prop where
  | logging {span span' : Trace.Span} {since : Instant} {inner inner' : Flight}
      (spans : span.anonymous = span'.anonymous) (inside : Alike R inner inner') :
      Alike R (.within (.logging span since) inner) (.within (.logging span' since) inner')
  | timeout {u u' : Token} {due : Option Instant} {limit : Duration} {inner inner' : Flight}
      (tokens : u.Alike R u') (inside : Alike R inner inner') :
      Alike R (.within (.timeout u due limit) inner) (.within (.timeout u' due limit) inner')
  | working {due : Option Instant} {u u' : Token} {o : Outcome} (tokens : u.Alike R u') :
      Alike R (.working due u o) (.working due u' o)

/-- The same outcome, or flights that are alike. -/
inductive Reply.Alike (R : Pairing) : Reply → Reply → Prop where
  | done (o : Outcome) : Alike R (.done o) (.done o)
  | pending {f f' : Flight} (flights : f.Alike R f') : Alike R (.pending f) (.pending f')

/-- Requests to instances that are the same but for their number. -/
inductive Work.Alike : Work → Work → Prop where
  | serve {made made' : Instance} (instances : made.anonymous = made'.anonymous)
      (request : Request) (listed : Bool) :
      Alike (.serve made request listed) (.serve made' request listed)

/-- Invocations of the same call. -/
structure Invocation.Alike (R : Pairing) (inv inv' : Invocation) : Prop where
  context : inv.context.anonymous = inv'.context.anonymous
  caller : inv.caller.Alike R inv'.caller
  work : inv.work.Alike inv'.work

theorem Flight.Alike.mono {R R' : Pairing} {f f' : Flight} (alike : f.Alike R f')
    (wider : ∀ {i j}, R i j → R' i j) : f.Alike R' f' := by
  induction alike with
  | logging spans _ ih => exact .logging spans ih
  | timeout tokens _ ih => exact .timeout (tokens.mono wider) ih
  | working tokens => exact .working (tokens.mono wider)

/-- Flights that are alike wait for the same instants. The two clocks need only agree at those. -/
theorem Flight.Alike.timers_eq {R : Pairing} {f f' : Flight} (alike : f.Alike R f') :
    f.timers = f'.timers := by
  induction alike with
  | logging _ _ ih => exact ih
  | timeout _ _ ih => exact congrArg (_ ++ ·) ih
  | working _ => rfl

/-- The tokens of a flight that stand for others have been issued. A pairing only pairs tokens that
there are. -/
theorem Flight.Alike.issued {R : Pairing} {f f' : Flight} (alike : f.Alike R f')
    {forest : TokenForest} (issued : ∀ {i j}, R i j → i < forest.issued) : f.Issued forest := by
  induction alike with
  | logging _ _ ih => exact ih
  | timeout tokens _ ih =>
    intro t member
    rcases List.mem_cons.mp member with rfl | inside
    · exact issued tokens.id
    · exact ih t inside
  | working _ => exact fun t impossible => absurd impossible List.not_mem_nil

theorem Invocation.Alike.mono {R R' : Pairing} {inv inv' : Invocation} (alike : inv.Alike R inv')
    (wider : ∀ {i j}, R i j → R' i j) : inv.Alike R' inv' :=
  ⟨alike.context, alike.caller.mono wider, alike.work⟩

namespace Work.Alike

variable {w w' : Work}

theorem began (alike : w.Alike w') : w.began.anonymous = w'.began.anonymous := by
  cases alike with
  | serve instances request listed => exact congrArg (Note.called · request) instances

theorem dropped (alike : w.Alike w') : w.dropped.anonymous = w'.dropped.anonymous := by
  cases alike with
  | serve instances request listed => exact congrArg Note.dropped instances

end Work.Alike

namespace Meeting

namespace Twin

variable {m : Meeting} {s t : State} {inv inv' : Invocation}

/-- What was known when the runs met is held ever since. -/
theorem held_of_known (twin : m.Twin s t) {i j : Nat} (known : m.known i j) : m.held s t i j := by
  obtain ⟨here, there⟩ := twin.fair.tokens.issued known
  obtain ⟨k, count, countThere⟩ := twin.issued
  exact ⟨.inl known, by omega, by omega⟩

/-- The work is the same in both runs. The instances have different numbers, but their registrations
are steady. -/
theorem behavior_eq (twin : m.Twin s t) {w w' : Work} (works : w.Alike w') :
    w.behavior s = w'.behavior t := by
  cases works with
  | @serve made made' instances request listed =>
    simp only [Work.behavior, Catalog.behavior, Instance.recipe_eq_of_anonymous instances]
    rcases twin.recipe_agrees made'.recipe with ⟨here, there⟩ | ⟨r, r', here, there, same, steady⟩
    · rw [here, there]
    · obtain ⟨-, -, -, behaves⟩ := Recipe.agree_of_uncounted same
      have still : ∀ n, r.behavior n request = r.behavior 0 request :=
        (steady.behavior · request)
      rw [here, there]
      exact (still _).trans ((still r'.requests).symm.trans (by rw [behaves]))

/-- An attempt is taken down alike, by induction on what it is inside of. -/
theorem abandon (twin : m.Twin s t) {R : Pairing} {f f' : Flight} (flights : f.Alike R f')
    (works : inv.work.Alike inv'.work) : m.Twin (inv.abandon f s) (inv'.abandon f' t) := by
  induction flights with
  | logging _ _ ih => exact ih
  | timeout _ _ ih => exact ih
  | working _ => exact twin.note works.dropped

/-- The logging decorator is left alike. The spans have different numbers, and the same is written
about them. -/
theorem logOutcome (twin : m.Twin s t)
    (contexts : inv.context.anonymous = inv'.context.anonymous) {span span' : Trace.Span}
    (spans : span.anonymous = span'.anonymous) (since : Instant) (o : Outcome) :
    m.Twin (inv.logOutcome span since o s) (inv'.logOutcome span' since o t) := by
  obtain ⟨service, method, -, key, -⟩ := Context.agree_of_anonymous contexts
  have recorded {s t : State} (twin : m.Twin s t) (fields : List Trace.Field) :
      m.Twin (s.record (.recorded span fields)) (t.record (.recorded span' fields)) :=
    twin.record (congrArg (Trace.Entry.recorded · fields) spans)
  have around := Trace.Span.map_some_anonymous spans
  simp only [Invocation.logOutcome, service, method, key, twin.clock]
  cases o with
  | ok v => exact (recorded (recorded twin _) _).emit around _
  | error f => exact (recorded (recorded twin _) _).emit around _

end Twin

namespace Agrees

variable {m : Meeting} {x y : State × Reply} {inv inv' : Invocation}
  {outer outer' : Option Trace.Span}

theorem of_done {s t : State} (twin : m.Twin s t) (o : Outcome) :
    m.Agrees Reply.Alike (s, .done o) (t, .done o) :=
  ⟨twin, .done o⟩

/-- Around alike insides the logging decorators are left alike or go on waiting. -/
theorem around_logging (inside : m.Agrees Reply.Alike x y)
    (contexts : inv.context.anonymous = inv'.context.anonymous) {span span' : Trace.Span}
    (spans : span.anonymous = span'.anonymous) (since : Instant) :
    m.Agrees Reply.Alike (inv.around outer (.logging span since) x)
      (inv'.around outer' (.logging span' since) y) := by
  obtain ⟨s, reply⟩ := x
  obtain ⟨t, reply'⟩ := y
  cases inside.results with
  | done o => exact .of_done (inside.states.logOutcome contexts spans since o) o
  | pending flights => exact ⟨inside.states, .pending (.logging spans flights)⟩

/-- Around alike insides a time bound runs out in both runs or in none, since both clocks agree
while the call has its turn. Then its tokens are cancelled in both. -/
theorem around_timeout (inside : m.Agrees Reply.Alike x y)
    (contexts : inv.context.anonymous = inv'.context.anonymous)
    (works : inv.work.Alike inv'.work)
    (spans : outer.map Trace.Span.anonymous = outer'.map Trace.Span.anonymous)
    {u u' : Token} (tokens : u.Alike (m.held x.1 y.1) u') (due : Option Instant)
    (limit : Duration) :
    m.Agrees Reply.Alike (inv.around outer (.timeout u due limit) x)
      (inv'.around outer' (.timeout u' due limit) y) := by
  obtain ⟨s, reply⟩ := x
  obtain ⟨t, reply'⟩ := y
  obtain ⟨-, -, -, key, -⟩ := Context.agree_of_anonymous contexts
  have clock : s.now = t.now := inside.states.clock
  cases inside.results with
  | done o => exact .of_done inside.states o
  | @pending f f' flights =>
    have expired : Frame.isExpired (.timeout u due limit) s.now =
        Frame.isExpired (.timeout u' due limit) t.now := by
      rw [clock]
      cases due <;> rfl
    simp only [Invocation.around, expired]
    split
    · have down : m.Twin (inv.abandon f s) (inv'.abandon f' t) :=
        inside.states.abandon flights works
      have still : u.Alike (m.held (inv.abandon f s) (inv'.abandon f' t)) u' :=
        tokens.mono fun pair => ⟨pair.1,
          Nat.lt_of_lt_of_le pair.2.1 (Invocation.abandon_reaches f s).issued_le,
          Nat.lt_of_lt_of_le pair.2.2 (Invocation.abandon_reaches f' t).issued_le⟩
      simp only [Invocation.expire, key]
      exact .of_done ((down.cancel still).emit spans _) _
    · exact ⟨inside.states, .pending (.timeout tokens flights)⟩

end Agrees

namespace Twin

variable {m : Meeting} {s t : State} {inv inv' : Invocation} {outer outer' : Option Trace.Span}

/-- The work starts alike. If it cancels its caller's token, it does so in both runs. -/
theorem startWork (twin : m.Twin s t) {w w' : Work} (works : w.Alike w') {caller caller' : Token}
    (callers : caller.Alike m.known caller') (u u' : Token) :
    m.Twin (w.start s caller u) (w'.start t caller' u') := by
  have behaves := twin.behavior_eq works
  have began : m.Twin (s.note w.began) (t.note w'.began) := twin.note works.began
  cases works with
  | @serve made made' instances request listed =>
    have counted := began.withCatalog (Catalog.offers_countRequest _ made)
      (Catalog.offers_countRequest _ made')
    have handed {s t : State} (twin : m.Twin s t) :
        m.Twin (if listed then s.handOut u else s) (if listed then t.handOut u' else t) := by
      split
      · exact twin.handOut u u'
      · exact twin
    simp only [Work.start, Work.handsOut, behaves]
    split
    · exact (handed counted).cancel (callers.mono (handed counted).held_of_known)
    · exact handed counted

/-- The work starts in both runs or in none, as its tokens are cancelled in both or in neither. -/
theorem begin (twin : m.Twin s t) (invs : inv.Alike m.known inv') {u u' : Token}
    (tokens : u.Alike (m.held s t) u') :
    m.Agrees Reply.Alike (inv.begin u s) (inv'.begin u' t) := by
  have status : s.isCancelled u = t.isCancelled u' :=
    twin.isCancelled_eq (tokens.mono fun pair => pair.1)
  have started := twin.startWork invs.work invs.caller u u'
  have still : u.Alike (m.held (inv.work.start s inv.caller u) (inv'.work.start t inv'.caller u'))
      u' := tokens.later (Invocation.start_reaches u s).issued_le
        (Invocation.start_reaches u' t).issued_le
  simp only [Invocation.begin, status, twin.behavior_eq invs.work, started.clock]
  split
  · exact .of_done twin _
  · split
    · exact ⟨started, .pending (.working still)⟩
    · split
      · exact .of_done started _
      · exact ⟨started, .pending (.working still)⟩

/-- The decorators are entered alike, outermost first, and then the work. The induction follows the
decorators. -/
theorem enter (twin : m.Twin s t) (invs : inv.Alike m.known inv')
    (spans : outer.map Trace.Span.anonymous = outer'.map Trace.Span.anonymous)
    {decorators : List Decorator} (plain : ∀ d ∈ decorators, d.IsPlain) {u u' : Token}
    (tokens : u.Alike (m.held s t) u') :
    m.Agrees Reply.Alike (inv.enter outer decorators u s) (inv'.enter outer' decorators u' t) := by
  obtain ⟨service, method, -, key, attempt⟩ := Context.agree_of_anonymous invs.context
  induction decorators generalizing s t outer outer' u u' with
  | nil => exact twin.begin invs tokens
  | cons d rest ih =>
    have others : ∀ d ∈ rest, d.IsPlain := fun d member => plain d (List.mem_cons_of_mem _ member)
    cases d with
    | logging router =>
      have own : (s.nextSpan "attempt" inv.context.invocation).anonymous =
          (t.nextSpan "attempt" inv'.context.invocation).anonymous := rfl
      have opened := twin.openSpan own
        [Trace.text "router" router, Trace.text "service" inv'.context.service,
          Trace.text "method" inv'.context.method, Trace.text "key" inv'.context.key,
          Trace.number "attempt" inv'.context.attempt.toNat]
      simp only [Invocation.enter, service, method, key, attempt, opened.clock]
      exact .around_logging (ih opened (Trace.Span.map_some_anonymous own) others tokens)
        invs.context own _
    | timeout limit =>
      have inside := ih twin.issueToken spans others (twin.nextChild tokens)
      have timer : s.timer = t.timer := congrArg Backdrop.timer twin.backdrop_eq
      simp only [Invocation.enter, twin.clock, timer]
      refine .around_timeout inside invs.context invs.work spans ?_ _ _
      exact (twin.nextChild tokens).later (Invocation.enter_yields _ _ _ _).reaches.issued_le
        (Invocation.enter_yields _ _ _ _).reaches.issued_le
    | circuitBreaker slot => exact (plain _ List.mem_cons_self).elim
    | concurrencyLimit slot => exact (plain _ List.mem_cons_self).elim
    | interceptor i => exact (plain _ List.mem_cons_self).elim

/-- An attempt that waited is resumed alike, by induction on the two flights at once. -/
theorem resume (twin : m.Twin s t) (invs : inv.Alike m.known inv')
    (spans : outer.map Trace.Span.anonymous = outer'.map Trace.Span.anonymous)
    {f f' : Flight} (flights : f.Alike m.known f') :
    m.Agrees Reply.Alike (inv.resume outer f s) (inv'.resume outer' f' t) := by
  induction flights generalizing outer outer' with
  | logging own _ ih =>
    exact .around_logging (ih (Trace.Span.map_some_anonymous own)) invs.context own _
  | timeout tokens _ ih =>
    have inside := ih spans
    exact .around_timeout inside invs.context invs.work spans
      (tokens.mono inside.states.held_of_known) _ _
  | @working due u u' o tokens =>
    have status : s.isCancelled u = t.isCancelled u' :=
      twin.isCancelled_eq (tokens.mono Meeting.same_of_known)
    simp only [Invocation.resume, status, twin.clock]
    split
    · exact .of_done (twin.note invs.work.dropped) _
    · split
      · exact .of_done twin o
      · exact ⟨twin, .pending (.working (tokens.mono twin.held_of_known))⟩

end Twin

end Meeting

/-! ### What keeps an attempt waiting -/

/-- The token of the work that a flight waits for. -/
def Flight.worker? : Flight → Option Token
  | .within _ inner => inner.worker?
  | .working _ u _ => some u
  | _ => none

/-- The work of a flight that stands for another goes on under a token that stands for one. -/
theorem Flight.Alike.worker {R : Pairing} {f f' : Flight} (alike : f.Alike R f') {u : Token}
    (worker : f.worker? = some u) : ∃ u', u.Alike R u' := by
  induction alike with
  | logging _ _ ih => exact ih worker
  | timeout _ _ ih => exact ih worker
  | working tokens =>
    cases worker
    exact ⟨_, tokens⟩

/-- What an attempt is inside of when its decorators are plain. -/
def Frame.IsPlain : Frame → Prop
  | .logging _ _ => True
  | .timeout _ _ _ => True
  | _ => False

namespace Invocation

variable {inv : Invocation} {s s' : State} {R : Pairing} {f f' g : Flight}

/-- Before any of its timers has come and while its work is not cancelled, an attempt that is
resumed goes on waiting. So being looked at more often makes no difference to it. -/
theorem resume_of_waiting (span : Option Trace.Span) (plain : f.Alike R f')
    (ahead : f.IsAfter s.now) (free : ∀ u, f.worker? = some u → s.isCancelled u = false) :
    inv.resume span f s = (s, .pending f) := by
  induction plain generalizing span with
  | logging _ _ ih =>
    rw [resume, ih _ ahead free]
    rfl
  | @timeout u u' due limit inner inner' _ _ ih =>
    have inside : inner.IsAfter s.now := fun t member => ahead t (List.mem_append_right _ member)
    have notYet : Frame.isExpired (.timeout u due limit) s.now = false := by
      cases due with
      | none => rfl
      | some t => exact decide_eq_false (Nat.not_le_of_gt (ahead t List.mem_cons_self))
    rw [resume, ih _ inside free, around, if_neg (by rw [notYet]; exact Bool.false_ne_true)]
  | @working due u u' o _ =>
    have notYet : due.any (· ≤ s.now) = false := by
      cases due with
      | none => rfl
      | some t => exact decide_eq_false (Nat.not_le_of_gt (ahead t List.mem_cons_self))
    simp only [resume, free u rfl, notYet, Bool.false_eq_true, if_false]

/-- Around a plain attempt that waits, its inside waits and nothing has been done. A bound that had
run out would not wait. -/
theorem waiting_of_around {span : Option Trace.Span} {frame : Frame} {r : State × Reply}
    (waits : inv.around span frame r = (s', .pending g)) (plain : frame.IsPlain) :
    ∃ inner, r = (s', .pending inner) ∧ g = .within frame inner := by
  obtain ⟨s₁, reply⟩ := r
  cases frame with
  | logging own since =>
    cases reply with
    | done o => cases waits
    | pending inner =>
      cases waits
      exact ⟨inner, rfl, rfl⟩
  | timeout u due limit =>
    cases reply with
    | done o => cases waits
    | pending inner =>
      simp only [around] at waits
      split at waits
      · cases waits
      · cases waits
        exact ⟨inner, rfl, rfl⟩
  | circuit _ _ => exact plain.elim
  | permit _ => exact plain.elim
  | intercepted _ => exact plain.elim

/-- An attempt that goes on waiting when it is resumed has not done anything, and its work was free
to go on. -/
theorem waiting_of_resume (span : Option Trace.Span) (plain : f.Alike R f')
    (resumed : inv.resume span f s = (s', .pending g)) :
    s' = s ∧ g = f ∧ ∀ u, f.worker? = some u → s.isCancelled u = false := by
  induction plain generalizing span s' g with
  | logging _ _ ih =>
    obtain ⟨inner, inside, rfl⟩ := waiting_of_around resumed trivial
    obtain ⟨rfl, rfl, free⟩ := ih _ inside
    exact ⟨rfl, rfl, free⟩
  | timeout _ _ ih =>
    obtain ⟨inner, inside, rfl⟩ := waiting_of_around resumed trivial
    obtain ⟨rfl, rfl, free⟩ := ih _ inside
    exact ⟨rfl, rfl, free⟩
  | @working due u _ o _ =>
    simp only [resume] at resumed
    split at resumed
    · cases resumed
    · next free =>
      split at resumed
      · cases resumed
      · cases resumed
        refine ⟨rfl, rfl, ?_⟩
        rintro _ ⟨⟩
        exact Bool.not_eq_true _ ▸ free

/-- Starting its work cancels the caller's token at most. All other tokens stay as they are. -/
theorem cancelled_of_start {w : Work} {caller token : Token} {i : Nat}
    (cancelled : i ∈ (w.start s caller token).tokens.cancelled) :
    i ∈ s.tokens.cancelled ∨ i = caller.id := by
  have handed (listed : Bool) (s : State) :
      (if listed then s.handOut token else s).tokens = s.tokens := by
    split <;> rfl
  have cancels (b : Bool) (s : State)
      (cancelled : i ∈ (if b then s.cancel caller else s).tokens.cancelled) :
      i ∈ s.tokens.cancelled ∨ i = caller.id := by
    split at cancelled
    · exact (List.mem_cons.mp cancelled).symm
    · exact .inl cancelled
  cases w with
  | bare key behavior listed =>
    have before := cancels _ _ cancelled
    rw [handed] at before
    exact before
  | serve made request listed =>
    have before := cancels _ _ cancelled
    rw [handed] at before
    exact before

/-- An attempt that waits once its decorators are entered has cancelled its caller's token at most,
and the token of its work was not cancelled before. -/
theorem waiting_of_enter (span : Option Trace.Span) {decorators : List Decorator}
    (plain : ∀ d ∈ decorators, d.IsPlain) {token : Token}
    (entered : inv.enter span decorators token s = (s', .pending f)) :
    (∀ i ∈ s'.tokens.cancelled, i ∈ s.tokens.cancelled ∨ i = inv.caller.id) ∧
      ∀ u, f.worker? = some u → s.isCancelled u = false := by
  induction decorators generalizing span token s f with
  | nil =>
    simp only [enter, begin] at entered
    split at entered
    · cases entered
    · next free =>
      have uncancelled : s.isCancelled token = false := Bool.not_eq_true _ ▸ free
      split at entered
      · cases entered
        refine ⟨fun i cancelled => cancelled_of_start cancelled, ?_⟩
        rintro _ ⟨⟩
        exact uncancelled
      · split at entered
        · cases entered
        · cases entered
          refine ⟨fun i cancelled => cancelled_of_start cancelled, ?_⟩
          rintro _ ⟨⟩
          exact uncancelled
  | cons d rest ih =>
    have others : ∀ d ∈ rest, d.IsPlain := fun d member => plain d (List.mem_cons_of_mem _ member)
    cases d with
    | logging router =>
      obtain ⟨inner, inside, rfl⟩ := waiting_of_around entered trivial
      obtain ⟨few, free⟩ := ih _ others inside
      exact ⟨few, free⟩
    | timeout limit =>
      obtain ⟨inner, inside, rfl⟩ := waiting_of_around entered trivial
      obtain ⟨few, free⟩ := ih _ others inside
      exact ⟨few, free⟩
    | circuitBreaker slot => exact (plain _ List.mem_cons_self).elim
    | concurrencyLimit slot => exact (plain _ List.mem_cons_self).elim
    | interceptor i => exact (plain _ List.mem_cons_self).elim

end Invocation

end TrialRouting
