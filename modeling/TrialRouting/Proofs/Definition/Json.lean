import TrialRouting.Definition.Json
import TrialRouting.Proofs.Json.Printed

/-!
# Definitions survive their JSON text

What is written for a definition, or for a part of one, is read back as the same value: a
member that is left out is one whose absence stands for the value left out. With the round
trip of the text itself, parsing what has been written gives the value back. So a text and the
text written for its value spell the same value, and different values have different texts.
-/

namespace TrialRouting

namespace Json

/-- Reading undoes writing. -/
structure RoundTrips {α : Type} (write : α → Json) (read : Json → Option α) : Prop where
  /-- The text written for a value spells that value. -/
  reads_back : ∀ a, ofText? read (textOf write a) = some a
  /-- A text that spells a value and the text written for that value spell the same. -/
  stable : ∀ text a, ofText? read text = some a → ofText? read (textOf write a) = ofText? read text
  /-- Different values are written as different texts. -/
  injective : ∀ a b, textOf write a = textOf write b → a = b

/-- Reading a text undoes writing one if reading a value undoes writing one, and if only natural
numbers are written. The round trip of the text itself is known for such values; so the two can be
put together, and what can be undone is injective. -/
theorem roundTrips_of_reads {α : Type} {write : α → Json} {read : Json → Option α}
    (natural : ∀ a, (write a).Natural) (reads : ∀ a, read (write a) = some a) :
    RoundTrips write read := by
  have back (a : α) : ofText? read (textOf write a) = some a := by
    rw [ofText?, textOf, parse?_render (natural a), Option.bind_some, reads]
  constructor
  · exact back
  · intro text a spelled
    rw [back, spelled]
  · intro a b same
    have both : some a = some b := by rw [← back a, same, back b]
    exact Option.some.inj both

/-! ### Members -/

section Members

variable {α : Type} {members : List (String × Json)} {field name : String} {v : Json}

/-- A record only holds natural numbers if its members do. -/
theorem natural_record (each : ∀ m ∈ members, m.2.Natural) : (record members).Natural := by
  refine .object ?_
  intro m member
  obtain ⟨m', known, rfl⟩ := List.mem_map.mp member
  exact each m' known

theorem natural_ofString (s : String) : (ofString s).Natural :=
  .text _

theorem natural_ofWord (n : UInt64) : (ofWord n).Natural :=
  .number _

/-- All members of a record have names that can be read. -/
theorem namedMembers?_record (members : List (String × Json)) :
    namedMembers? (members.map fun (name, v) => (some name, v)) = some members := by
  induction members with
  | nil => rfl
  | cons m rest ih =>
    simp only [namedMembers?, List.map_cons, List.mapM_cons, Option.map_some] at ih ⊢
    rw [ih]
    rfl

/-- The fields of a record are looked up among its members. All members that are written have names
that can be read, so that nothing can go wrong before that. -/
theorem fields?_record (names : List String) (members : List (String × Json)) :
    fields? names (record members) = (names.mapM (single? members)).map .named := by
  simp only [fields?, record, namedMembers?_record, Option.map_eq_bind]
  rfl

/-- An empty object has no field. -/
@[simp] theorem single?_nil (field : String) : single? [] field = some none := by
  simp [single?]

/-- A member is the field of its name if no other has that name. -/
@[simp] theorem single?_cons_self (absent : single? members field = some none) (v : Json) :
    single? ((field, v) :: members) field = some (some v) := by
  have others : members.filter (·.1 == field) = [] := by
    unfold single? at absent
    split at absent
    · next none' => exact none'
    · cases absent
    · cases absent
  simp only [single?, List.filter_cons, beq_self_eq_true, if_true, others]

/-- Members of other names are passed over. -/
@[simp] theorem single?_cons_of_ne (other : name ≠ field) (v : Json) :
    single? ((name, v) :: members) field = single? members field := by
  simp [single?, other]

/-- A member that may be left out is the field of its name where it is not. Where it is left out,
the field is not found, and that is how an unset value is written. -/
@[simp] theorem single?_optional_self (absent : single? members field = some none)
    (write : α → Json) (a : Option α) :
    single? (Definition.optionalMember field write a ++ members) field = some (a.map write) := by
  cases a with
  | none => exact absent
  | some a => exact single?_cons_self absent _

@[simp] theorem single?_optional_of_ne (other : name ≠ field) (write : α → Json) (a : Option α) :
    single? (Definition.optionalMember name write a ++ members) field = single? members field := by
  cases a with
  | none => rfl
  | some a => exact single?_cons_of_ne other _

/-- Items are read one by one, each as what it was written for. -/
theorem list?_map {read : Json → Option α} {write : α → Json} (reads : ∀ a, read (write a) = some a)
    (as : List α) : list? read (.array (as.map write)) = some as := by
  induction as with
  | nil => rfl
  | cons a rest ih =>
    simp only [list?, List.map_cons, List.mapM_cons, reads a] at ih ⊢
    rw [ih]
    rfl

/-- What is not written as null is read as set. A value that were written as null would be read as
unset instead, and be lost. -/
theorem nullable?_of_reads {read : Json → Option α} {a : α} (reads : read v = some a)
    (set : v ≠ .null) : nullable? read v = some (some a) := by
  cases v with
  | null => exact absurd rfl set
  | _ => simp [nullable?, reads]

/-- A field of an object that is left out where it is not set is read back, whether it is set or
not. -/
theorem nullable?_named {read : Json → Option α} {write : α → Json}
    (reads : ∀ a, read (write a) = some a) (set : ∀ a, write a ≠ .null)
    {values : List (Option Json)} {i : Nat} {a : Option α}
    (found : (Fields.named values).value? i = a.map write) :
    (Fields.named values).nullable? i read = some a := by
  cases a with
  | none => simp only [Fields.nullable?, found, Option.map_none]
  | some a => simp only [Fields.nullable?, found, Option.map_some,
      nullable?_of_reads (reads a) (set a)]

/-- A field whose default is that it is not set is read back as well, set or not. -/
theorem withDefault?_named {read : Json → Option α} {write : α → Json}
    (reads : ∀ a, read (write a) = some a) (set : ∀ a, write a ≠ .null)
    {values : List (Option Json)} {i : Nat} {a : Option α}
    (found : (Fields.named values).value? i = a.map write) :
    (Fields.named values).withDefault? i none (nullable? read) = some a := by
  cases a with
  | none => simp only [Fields.withDefault?, found, Option.map_none]
  | some a => simp only [Fields.withDefault?, found, Option.map_some,
      nullable?_of_reads (reads a) (set a)]

/-- A number that may be unset is read back. -/
theorem nullable?_ofOption (n : Option UInt64) :
    nullable? word? (ofOption ofWord n) = some n := by
  cases n with
  | none => rfl
  | some n => exact nullable?_of_reads (v := ofWord n) (Numeral.word64?_ofNat n) (by simp [ofWord])

end Members

end Json

/-! ### The parts of a definition -/

open Json

theorem OnError.natural_toJson (p : OnError) : p.toJson.Natural := by
  cases p with
  | throw => exact natural_ofString _
  | redirectToDefault => exact natural_ofString _
  | redirectToAny => exact natural_ofString _
  | redirectToSpecific key =>
    refine natural_record fun m member => ?_
    exact List.mem_singleton.mp member ▸ natural_ofString key
  | redirectOrdered keys =>
    refine natural_record fun m member => ?_
    rw [List.mem_singleton.mp member]
    refine .array fun v member => ?_
    obtain ⟨key, -, rfl⟩ := List.mem_map.mp member
    exact natural_ofString key

/-- An error policy is read back. -/
theorem OnError.ofJson?_toJson (p : OnError) : ofJson? p.toJson = some p := by
  cases p with
  | throw => rfl
  | redirectToDefault => rfl
  | redirectToAny => rfl
  | redirectToSpecific key => rfl
  | redirectOrdered keys =>
    have reads (key : String) : string? (ofString key) = some key := rfl
    show (list? string? (.array (keys.map ofString))).map redirectOrdered = _
    rw [list?_map reads]
    rfl

theorem TimeoutAction.natural_toJson (a : TimeoutAction) : a.toJson.Natural := by
  cases a with
  | throw => exact natural_ofString _
  | fallbackToDefault => exact natural_ofString _
  | fallbackToSpecific key =>
    refine natural_record fun m member => ?_
    exact List.mem_singleton.mp member ▸ natural_ofString key

/-- A timeout action is read back. -/
theorem TimeoutAction.ofJson?_toJson (a : TimeoutAction) : ofJson? a.toJson = some a := by
  cases a <;> rfl

theorem TimeoutScope.natural_toJson (s : TimeoutScope) : s.toJson.Natural := by
  cases s <;> exact natural_ofString _

/-- A timeout scope is read back. -/
theorem TimeoutScope.ofJson?_toJson (s : TimeoutScope) : ofJson? s.toJson = some s := by
  cases s <;> rfl

theorem TimeoutDefinition.natural_toJson (t : TimeoutDefinition) : t.toJson.Natural := by
  refine natural_record ?_
  simp [natural_ofWord, TimeoutAction.natural_toJson, TimeoutScope.natural_toJson]

/-- A timeout is read back. -/
theorem TimeoutDefinition.ofJson?_toJson (t : TimeoutDefinition) : ofJson? t.toJson = some t := by
  have word : word? (ofWord t.millis) = some t.millis := Numeral.word64?_ofNat t.millis
  simp [ofJson?, toJson, fields?_record, Fields.required?, Fields.withDefault?, Fields.value?, word,
    TimeoutAction.ofJson?_toJson, TimeoutScope.ofJson?_toJson]

theorem Window.natural_toJson (w : Window) : w.toJson.Natural := by
  have bound (n : Option UInt64) : (ofOption ofWord n).Natural := by
    cases n with
    | none => exact .null
    | some n => exact natural_ofWord n
  refine natural_record ?_
  simp [bound]

/-- A window is read back. -/
theorem Window.ofJson?_toJson (w : Window) : ofJson? w.toJson = some w := by
  simp [ofJson?, toJson, fields?_record, Fields.nullable?, Fields.value?, nullable?_ofOption]

theorem Trial.natural_toJson (t : Trial) : t.toJson.Natural := by
  refine natural_record ?_
  simp [natural_ofString]

/-- A trial is read back. -/
theorem Trial.ofJson?_toJson (t : Trial) : ofJson? t.toJson = some t := by
  simp [ofJson?, toJson, fields?_record, Fields.required?, Fields.value?, ofString, string?]

theorem Definition.natural_toJson (d : Definition) : d.toJson.Natural := by
  have optional {α : Type} {write : α → Json} (natural : ∀ a, (write a).Natural) (name : String)
      (a : Option α) : ∀ m ∈ optionalMember name write a, m.2.Natural := by
    cases a with
    | none => exact fun _ impossible => absurd impossible List.not_mem_nil
    | some a => exact fun m member => List.mem_singleton.mp member ▸ natural a
  have trials : (Json.array (d.trials.map Trial.toJson)).Natural := by
    refine .array fun v member => ?_
    obtain ⟨trial, -, rfl⟩ := List.mem_map.mp member
    exact trial.natural_toJson
  refine natural_record fun m member => ?_
  simp only [List.mem_append, List.mem_cons, List.not_mem_nil, or_false] at member
  rcases member with ((((rfl | mode) | selector) | rfl | rfl | rfl) | timeout) | rfl
  · exact natural_ofString d.service
  · exact optional natural_ofString "mode" d.mode m mode
  · exact optional natural_ofString "selector" d.selector m selector
  · exact natural_ofString d.defaultKey
  · exact trials
  · exact d.onError.natural_toJson
  · exact optional TimeoutDefinition.natural_toJson "timeout" d.timeout m timeout
  · exact d.activation.natural_toJson

/-- What is written for the fields of a definition. -/
def Definition.written (d : Definition) : List (Option Json) :=
  [some (.ofString d.service), d.mode.map .ofString, d.selector.map .ofString,
    some (.ofString d.defaultKey), some (.array (d.trials.map Trial.toJson)),
    some d.onError.toJson, d.timeout.map TimeoutDefinition.toJson, some d.activation.toJson]

/-- The fields of a definition are found again in what is written for it. Three of its members are
left out where they are not set; the others are always there, each once. -/
theorem Definition.fields?_toJson (d : Definition) :
    Json.fields? fieldNames d.toJson = some (.named d.written) := by
  simp [toJson, fieldNames, fields?_record, written]

/-- A definition is read back, field by field: each is found, and its part is read as what it was
written for. -/
theorem Definition.ofJson?_toJson (d : Definition) : ofJson? d.toJson = some d := by
  have text (s : String) : string? (ofString s) = some s := rfl
  have textSet (s : String) : ofString s ≠ .null := by simp [ofString]
  have timeoutSet (t : TimeoutDefinition) : t.toJson ≠ .null := by
    simp [TimeoutDefinition.toJson, record]
  have service : (Fields.named d.written).required? 0 string? = some d.service := text d.service
  have mode : (Fields.named d.written).nullable? 1 string? = some d.mode :=
    nullable?_named text textSet rfl
  have selector : (Fields.named d.written).nullable? 2 string? = some d.selector :=
    nullable?_named text textSet rfl
  have defaultKey : (Fields.named d.written).required? 3 string? = some d.defaultKey :=
    text d.defaultKey
  have trials : (Fields.named d.written).required? 4 (list? Trial.ofJson?) = some d.trials :=
    list?_map Trial.ofJson?_toJson d.trials
  have onError : (Fields.named d.written).withDefault? 5 .throw OnError.ofJson? = some d.onError :=
    d.onError.ofJson?_toJson
  have timeout : (Fields.named d.written).withDefault? 6 none
      (nullable? TimeoutDefinition.ofJson?) = some d.timeout :=
    withDefault?_named TimeoutDefinition.ofJson?_toJson timeoutSet rfl
  have activation : (Fields.named d.written).withDefault? 7 .unbounded Window.ofJson? =
      some d.activation := d.activation.ofJson?_toJson
  simp only [ofJson?, fields?_toJson, Option.bind_eq_bind, Option.bind_some, service, mode,
    selector, defaultKey, trials, onError, timeout, activation]
  rfl

/-- Definitions survive their JSON text, and so does each of their parts: serializing a value and
parsing the text gives the value back, for every text the parser accepts the text written for its
value spells the same value, and different values have different texts.

Proof: a part is read back as what it was written for, and only natural numbers are written; with
the round trip of texts this is a round trip of the part, from the smallest to the whole. -/
theorem definitions_round_trip :
    RoundTrips Definition.toJson Definition.ofJson? ∧
      RoundTrips OnError.toJson OnError.ofJson? ∧
      RoundTrips TimeoutAction.toJson TimeoutAction.ofJson? ∧
      RoundTrips TimeoutScope.toJson TimeoutScope.ofJson? ∧
      RoundTrips TimeoutDefinition.toJson TimeoutDefinition.ofJson? ∧
      RoundTrips Window.toJson Window.ofJson? ∧ RoundTrips Trial.toJson Trial.ofJson? :=
  ⟨roundTrips_of_reads Definition.natural_toJson Definition.ofJson?_toJson,
    roundTrips_of_reads OnError.natural_toJson OnError.ofJson?_toJson,
    roundTrips_of_reads TimeoutAction.natural_toJson TimeoutAction.ofJson?_toJson,
    roundTrips_of_reads TimeoutScope.natural_toJson TimeoutScope.ofJson?_toJson,
    roundTrips_of_reads TimeoutDefinition.natural_toJson TimeoutDefinition.ofJson?_toJson,
    roundTrips_of_reads Window.natural_toJson Window.ofJson?_toJson,
    roundTrips_of_reads Trial.natural_toJson Trial.ofJson?_toJson⟩

end TrialRouting
