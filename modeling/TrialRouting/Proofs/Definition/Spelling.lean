import Mathlib.Data.List.Forall2
import TrialRouting.Proofs.Definition.Records
import TrialRouting.Proofs.Json.Printed
import TrialRouting.Proofs.Json.Trailing

/-!
# The spelling of a definition does not matter

Every text that spells a definition is read as that definition. A definition and each of its parts
may be an object or the array of its fields; members may stand in any order, with others among them
that are nobody's; what is not set may be `null` or left out, and what has its default may be left
out. A text that gives a field twice, lacks one it must have, or goes on after its value is refused.
-/

namespace TrialRouting

open Json

/-! ### How the parts are spelled -/

/-- A variant is its name, or an object whose only member is its name with its content; one without
content may also be such an object. -/
inductive Json.Variant {α : Type} (write : α → Json) : Json → α → Prop where
  | written (a : α) : Variant write (write a) a
  | void {a : α} {name : String} (plain : write a = .ofString name) :
      Variant write (.record [(name, .null)]) a

/-- The text of a string. -/
def Json.IsText (v : Json) (s : String) : Prop :=
  v = .ofString s

/-- The number of a word. -/
def Json.IsWord (v : Json) (n : UInt64) : Prop :=
  v = .ofWord n

/-- How a trial is spelled. -/
def Trial.IsSpelled (v : Json) (t : Trial) : Prop :=
  Writes ["key", "implementation"] 0 [some (.ofString t.key), some (.ofString t.implementation)] v

/-- How a window is spelled. -/
inductive Window.IsSpelled (v : Json) (w : Window) : Prop where
  | of {start finish : Option Json} (starts : Slot none (Nullable IsWord) start w.start)
      (ends : Slot none (Nullable IsWord) finish w.finish)
      (writes : Writes ["start_ms", "end_ms"] 0 [start, finish] v)

/-- How a timeout is spelled. -/
inductive TimeoutDefinition.IsSpelled (v : Json) (t : TimeoutDefinition) : Prop where
  | of {action scope : Option Json}
      (acts : Slot .throw (Variant TimeoutAction.toJson) action t.action)
      (covers : Slot .wholeSequence (Variant TimeoutScope.toJson) scope t.scope)
      (writes : Writes ["timeout_ms", "action", "scope"] 2
        [some (.ofWord t.millis), action, scope] v)

/-- How a definition is spelled. -/
inductive Definition.IsSpelled (v : Json) (d : Definition) : Prop where
  | of {mode selector onError timeout activation : Option Json} {trials : List Json}
      (moded : Slot none (Nullable IsText) mode d.mode)
      (selected : Slot none (Nullable IsText) selector d.selector)
      (tried : List.Forall₂ Trial.IsSpelled trials d.trials)
      (handled : Slot .throw (Variant OnError.toJson) onError d.onError)
      (timed : Slot none (Nullable TimeoutDefinition.IsSpelled) timeout d.timeout)
      (active : Slot .unbounded Window.IsSpelled activation d.activation)
      (writes : Writes fieldNames 3 [some (.ofString d.service), mode, selector,
        some (.ofString d.defaultKey), some (.array trials), onError, timeout, activation] v)

/-! ### How the parts are read -/

variable {v : Json}

theorem Json.string?_of_isText (v : Json) (s : String) (spelled : IsText v s) :
    string? v = some s ∧ v ≠ .null := by
  cases spelled
  exact ⟨rfl, by simp [ofString]⟩

theorem Json.word?_of_isWord (v : Json) (n : UInt64) (spelled : IsWord v n) :
    word? v = some n ∧ v ≠ .null := by
  cases spelled
  exact ⟨Numeral.word64?_ofNat n, by simp [ofWord]⟩

/-- An error policy is read from each of its spellings: from what is written for it, and, where it
has no content, from an object with `null` for it. -/
theorem OnError.ofJson?_of_variant (v : Json) (p : OnError) (spelled : Variant toJson v p) :
    ofJson? v = some p := by
  cases spelled with
  | written => exact p.ofJson?_toJson
  | void plain =>
    cases p <;> cases plain <;> rfl

theorem TimeoutAction.ofJson?_of_variant (v : Json) (a : TimeoutAction)
    (spelled : Variant toJson v a) : ofJson? v = some a := by
  cases spelled with
  | written => exact a.ofJson?_toJson
  | void plain => cases a <;> cases plain <;> rfl

theorem TimeoutScope.ofJson?_of_variant (v : Json) (s : TimeoutScope)
    (spelled : Variant toJson v s) : ofJson? v = some s := by
  cases spelled with
  | written => exact s.ofJson?_toJson
  | void plain => cases s <;> cases plain <;> rfl

/-- A trial is read field by field, and in no other way: it is read from a value exactly if the
value has the two fields and each of them can be read. -/
theorem Trial.ofJson?_eq_some_iff {t : Trial} : ofJson? v = some t ↔
    ∃ f, v.fields? ["key", "implementation"] = some f ∧ f.required? 0 string? = some t.key ∧
      f.required? 1 string? = some t.implementation := by
  obtain ⟨key, implementation⟩ := t
  simp [ofJson?, Option.bind_eq_some_iff]

/-- So is a window. -/
theorem Window.ofJson?_eq_some_iff {w : Window} : ofJson? v = some w ↔
    ∃ f, v.fields? ["start_ms", "end_ms"] = some f ∧ f.nullable? 0 word? = some w.start ∧
      f.nullable? 1 word? = some w.finish := by
  obtain ⟨start, finish⟩ := w
  simp [ofJson?, Option.bind_eq_some_iff]

/-- So is a timeout. -/
theorem TimeoutDefinition.ofJson?_eq_some_iff {t : TimeoutDefinition} : ofJson? v = some t ↔
    ∃ f, v.fields? ["timeout_ms", "action", "scope"] = some f ∧
      f.required? 0 word? = some t.millis ∧
      f.withDefault? 1 .throw TimeoutAction.ofJson? = some t.action ∧
      f.withDefault? 2 .wholeSequence TimeoutScope.ofJson? = some t.scope := by
  obtain ⟨millis, action, scope⟩ := t
  simp only [ofJson?, Option.bind_eq_bind, Option.bind_eq_some_iff, Option.pure_def,
    Option.some.injEq, mk.injEq]
  constructor
  · rintro ⟨f, read, _, duration, _, acts, _, covers, rfl, rfl, rfl⟩
    exact ⟨f, read, duration, acts, covers⟩
  · rintro ⟨f, read, duration, acts, covers⟩
    exact ⟨f, read, _, duration, _, acts, _, covers, rfl, rfl, rfl⟩

/-- So is a definition, with each of its fields read as the attributes of that field say: required,
nullable, or with a default. -/
theorem Definition.ofJson?_eq_some_iff {d : Definition} : ofJson? v = some d ↔
    ∃ f, v.fields? fieldNames = some f ∧ f.required? 0 string? = some d.service ∧
      f.nullable? 1 string? = some d.mode ∧ f.nullable? 2 string? = some d.selector ∧
      f.required? 3 string? = some d.defaultKey ∧
      f.required? 4 (list? Trial.ofJson?) = some d.trials ∧
      f.withDefault? 5 .throw OnError.ofJson? = some d.onError ∧
      f.withDefault? 6 none (Json.nullable? TimeoutDefinition.ofJson?) = some d.timeout ∧
      f.withDefault? 7 .unbounded Window.ofJson? = some d.activation := by
  obtain ⟨service, mode, selector, defaultKey, trials, onError, timeout, activation⟩ := d
  simp only [ofJson?, Option.bind_eq_bind, Option.bind_eq_some_iff, Option.pure_def,
    Option.some.injEq, mk.injEq]
  constructor
  · rintro ⟨f, read, _, named, _, moded, _, selected, _, keyed, _, tried, _, handled, _, timed, _,
      active, rfl, rfl, rfl, rfl, rfl, rfl, rfl, rfl⟩
    exact ⟨f, read, named, moded, selected, keyed, tried, handled, timed, active⟩
  · rintro ⟨f, read, named, moded, selected, keyed, tried, handled, timed, active⟩
    exact ⟨f, read, _, named, _, moded, _, selected, _, keyed, _, tried, _, handled, _, timed, _,
      active, rfl, rfl, rfl, rfl, rfl, rfl, rfl, rfl⟩

/-! ### Every spelling is read -/

theorem Trial.ofJson?_of_spelled (v : Json) (t : Trial) (spelled : IsSpelled v t) :
    ofJson? v = some t := by
  obtain ⟨f, read, holds⟩ := spelled.exists_fields (by decide) rfl
  exact ofJson?_eq_some_iff.mpr ⟨f, read, holds.required? rfl rfl, holds.required? rfl rfl⟩

/-- Every spelling of a window is read as that window. Both of its ends may be unset; neither has a
default that an array could leave out. -/
theorem Window.ofJson?_of_spelled (v : Json) (w : Window) (spelled : IsSpelled v w) :
    ofJson? v = some w := by
  obtain ⟨starts, ends, writes⟩ := spelled
  obtain ⟨f, read, holds⟩ := writes.exists_fields (by decide) rfl
  exact ofJson?_eq_some_iff.mpr ⟨f, read,
    holds.nullable? rfl (by simp) starts Json.word?_of_isWord,
    holds.nullable? rfl (by simp) ends Json.word?_of_isWord⟩

theorem TimeoutDefinition.ofJson?_of_spelled (v : Json) (t : TimeoutDefinition)
    (spelled : IsSpelled v t) : ofJson? v = some t := by
  obtain ⟨acts, covers, writes⟩ := spelled
  obtain ⟨f, read, holds⟩ := writes.exists_fields (by decide) rfl
  exact ofJson?_eq_some_iff.mpr ⟨f, read,
    holds.required? rfl (Json.word?_of_isWord _ _ rfl).1,
    holds.withDefault? rfl acts TimeoutAction.ofJson?_of_variant,
    holds.withDefault? rfl covers TimeoutScope.ofJson?_of_variant⟩

/-- A list of trials is read one by one. -/
theorem Json.list?_of_forall₂ {items : List Json} {trials : List Trial}
    (spelled : List.Forall₂ Trial.IsSpelled items trials) :
    list? Trial.ofJson? (.array items) = some trials := by
  refine mapM_eq_some_of_zip spelled.length_eq fun p listed => ?_
  exact Trial.ofJson?_of_spelled p.1 p.2 (List.forall₂_zip spelled listed)

/-- Every spelling of a definition is read as that definition: its fields are found wherever they
stand, and each of them is read by what is known of its part. A timeout is never spelled as `null`,
which would stand for none. -/
theorem Definition.ofJson?_of_spelled (v : Json) (d : Definition) (spelled : IsSpelled v d) :
    ofJson? v = some d := by
  obtain ⟨moded, selected, tried, handled, timed, active, writes⟩ := spelled
  obtain ⟨f, read, holds⟩ := writes.exists_fields (by decide) rfl
  have timeout (v : Json) (t : TimeoutDefinition) (spelled : t.IsSpelled v) :
      TimeoutDefinition.ofJson? v = some t ∧ v ≠ .null := by
    refine ⟨t.ofJson?_of_spelled v spelled, ?_⟩
    rintro rfl
    obtain ⟨-, -, writes⟩ := spelled
    cases writes
  exact ofJson?_eq_some_iff.mpr ⟨f, read, holds.required? rfl rfl,
    holds.nullable? rfl (by simp) moded Json.string?_of_isText,
    holds.nullable? rfl (by simp) selected Json.string?_of_isText,
    holds.required? rfl rfl,
    holds.required? rfl (Json.list?_of_forall₂ tried),
    holds.withDefault? rfl handled OnError.ofJson?_of_variant,
    holds.withDefault? rfl timed fun _ _ spelled => nullable?_of_spelled timeout spelled,
    holds.withDefault? rfl active Window.ofJson?_of_spelled⟩

/-! ### What is refused -/

/-- A trial with a name twice, or without one. -/
def Trial.IsFaulty (v : Json) : Prop :=
  Repeats ["key", "implementation"] v ∨ Lacks ["key", "implementation"] 2 v

/-- A window with an end twice, or an array without both. -/
def Window.IsFaulty (v : Json) : Prop :=
  Repeats ["start_ms", "end_ms"] v ∨ Lacks [] 2 v

/-- A timeout with a field twice, or without its duration. -/
def TimeoutDefinition.IsFaulty (v : Json) : Prop :=
  Repeats ["timeout_ms", "action", "scope"] v ∨ Lacks ["timeout_ms"] 1 v

/-- A definition with a field twice, or without one it must have, or with such a part. -/
inductive Definition.IsFaulty (v : Json) : Prop where
  | twice (repeats : Repeats fieldNames v)
  | lacking (lacks : Lacks ["service_type", "default_key", "trials"] 5 v)
  | trial {items : List Json} {item : Json} (has : HasField "trials" 4 (.array items) v)
      (listed : item ∈ items) (faulty : Trial.IsFaulty item)
  | timeout {w : Json} (has : HasField "timeout" 6 w v) (faulty : TimeoutDefinition.IsFaulty w)
  | activation {w : Json} (has : HasField "activation" 7 w v) (faulty : Window.IsFaulty w)

theorem Json.Fields.required?_of_missing {α : Type} {f : Fields} {i : Nat} {read : Json → Option α}
    (missing : f.value? i = none) : f.required? i read = none := by
  rw [required?, missing, Option.bind_none]

/-- A trial with a name twice, or without one, is refused, since both have to be there and the
reader does not choose between two. -/
theorem Trial.ofJson?_of_faulty (faulty : IsFaulty v) : ofJson? v = none := by
  refine Option.eq_none_iff_forall_ne_some.mpr fun t read => ?_
  obtain ⟨f, fields, key, implementation⟩ := ofJson?_eq_some_iff.mp read
  rcases faulty with repeats | lacks
  · rw [fields?_of_repeats repeats] at fields
    cases fields
  · cases lacks with
    | object needed absent =>
      simp only [List.mem_cons, List.not_mem_nil, or_false] at needed
      rcases needed with rfl | rfl
      · rw [Fields.required?_of_missing (value?_of_absent absent rfl fields)] at key
        cases key
      · rw [Fields.required?_of_missing (value?_of_absent absent rfl fields)] at implementation
        cases implementation
    | array short =>
      have missing := (value?_of_short (Nat.le_of_lt_succ short) fields).1
      rw [Fields.required?_of_missing missing] at implementation
      cases implementation

/-- A window with an end twice is refused, and so is an array without both ends. An object may leave
out an end, and an array may not. -/
theorem Window.ofJson?_of_faulty (faulty : IsFaulty v) : ofJson? v = none := by
  refine Option.eq_none_iff_forall_ne_some.mpr fun w read => ?_
  obtain ⟨f, fields, starts, ends⟩ := ofJson?_eq_some_iff.mp read
  rcases faulty with repeats | lacks
  · rw [fields?_of_repeats repeats] at fields
    cases fields
  · cases lacks with
    | object needed => cases needed
    | array short =>
      obtain ⟨missing, values, rfl⟩ := value?_of_short (Nat.le_of_lt_succ short) fields
      simp [Fields.nullable?, missing] at ends

/-- A timeout with a field twice, or without its duration, is refused. Its action and its scope have
defaults and may be left out. -/
theorem TimeoutDefinition.ofJson?_of_faulty (faulty : IsFaulty v) : ofJson? v = none := by
  refine Option.eq_none_iff_forall_ne_some.mpr fun t read => ?_
  obtain ⟨f, fields, duration, -, -⟩ := ofJson?_eq_some_iff.mp read
  have missing : f.value? 0 ≠ none := by
    intro missing
    rw [Fields.required?_of_missing missing] at duration
    cases duration
  rcases faulty with repeats | lacks
  · rw [fields?_of_repeats repeats] at fields
    cases fields
  · cases lacks with
    | object needed absent =>
      cases List.mem_singleton.mp needed
      exact missing (value?_of_absent absent rfl fields)
    | array short => exact missing (value?_of_short (Nat.le_of_lt_succ short) fields).1

/-- A list with something that cannot be read is not read. The reader stops at the first such item,
and there is no list without it. -/
theorem Json.list?_of_mem {α : Type} {read : Json → Option α} {items : List Json} {item : Json}
    (listed : item ∈ items) (refused : read item = none) : list? read (.array items) = none := by
  refine Option.eq_none_iff_forall_ne_some.mpr fun values all => ?_
  obtain ⟨i, here⟩ := List.mem_iff_getElem?.mp listed
  obtain ⟨a, -, some'⟩ := exists_of_mapM_eq_some all here
  rw [refused] at some'
  cases some'

theorem Json.nullable?_of_refused {α : Type} {read : Json → Option α} (refused : read v = none)
    (set : v ≠ .null) : nullable? read v = none := by
  cases v with
  | null => exact absurd rfl set
  | _ => simp [nullable?, refused]

/-- A definition with a field twice, or without one it must have, is refused, and so is one with
such a part. Its fields would all have to be read, and the one at fault cannot be: a required one is
not found, and a faulty part is not read even where it has a default. -/
theorem Definition.ofJson?_of_faulty (faulty : IsFaulty v) : ofJson? v = none := by
  refine Option.eq_none_iff_forall_ne_some.mpr fun d read => ?_
  obtain ⟨f, fields, service, -, -, defaultKey, trials, -, timeout, activation⟩ :=
    ofJson?_eq_some_iff.mp read
  cases faulty with
  | twice repeats =>
    rw [fields?_of_repeats repeats] at fields
    cases fields
  | lacking lacks =>
    cases lacks with
    | object needed absent =>
      simp only [List.mem_cons, List.not_mem_nil, or_false] at needed
      rcases needed with rfl | rfl | rfl
      · rw [Fields.required?_of_missing (value?_of_absent absent rfl fields)] at service
        cases service
      · rw [Fields.required?_of_missing (value?_of_absent absent rfl fields)] at defaultKey
        cases defaultKey
      · rw [Fields.required?_of_missing (value?_of_absent absent rfl fields)] at trials
        cases trials
    | array short =>
      have missing := (value?_of_short (Nat.le_of_lt_succ short) fields).1
      rw [Fields.required?_of_missing missing] at trials
      cases trials
  | trial has listed faulty =>
    rw [Fields.required?, value?_of_hasField has rfl fields, Option.bind_some,
      Json.list?_of_mem listed (Trial.ofJson?_of_faulty faulty)] at trials
    cases trials
  | @timeout w has faulty =>
    have set : w ≠ .null := by
      rintro rfl
      rcases faulty with repeats | lacks
      · cases repeats
      · cases lacks
    have refused := TimeoutDefinition.ofJson?_of_faulty faulty
    rw [Fields.withDefault?, value?_of_hasField has rfl fields] at timeout
    simp only [nullable?_of_refused refused set] at timeout
    cases timeout
  | activation has faulty =>
    rw [Fields.withDefault?, value?_of_hasField has rfl fields] at activation
    simp only [Window.ofJson?_of_faulty faulty] at activation
    cases activation

/-! ### Texts -/

namespace Definition

/-- A definition is an object or an array, since nothing else has fields. So a text that is read as
a definition cannot be one that is read as a number with more digits after it. -/
theorem isContainer_of_read {d : Definition} (read : ofJson? v = some d) : v.IsContainer := by
  obtain ⟨f, fields, -⟩ := ofJson?_eq_some_iff.mp read
  cases v with
  | object members => exact .object members
  | array items => exact .array items
  | null | bool | number | text => cases fields

/-- What a definition is does not depend on its spelling. -/
structure ReadsEverySpelling : Prop where
  /-- Every text that spells a definition is read as that definition. -/
  spelled : ∀ (text : String) (v : Json) (d : Definition), IsWritten text.toList v →
    IsSpelled v d → parse? text = some d
  /-- A text with a field twice or without one it must have is refused. -/
  faulty : ∀ (text : String) (v : Json), IsWritten text.toList v → IsFaulty v →
    parse? text = none
  /-- So is one with anything but blanks after its value. -/
  followed : ∀ (text rest : String) (v : Json), IsWritten text.toList v →
    rest.toList.all JsonToken.isBlank = false → parse? (text ++ rest) = none

/-- What a definition is does not depend on how it is spelled, and a text that spells none is
refused.

Proof: a text that is written for a value is read as that value, whatever its blanks and escapes; a
value that spells a definition is read as it, field by field. A fault stands in the way of one of
the fields. A text that goes on after its value is not read as an array or an object, and a
definition is one of these. -/
theorem reads_every_spelling : ReadsEverySpelling where
  spelled := by
    intro text v d written spelled
    rw [parse?, ofText?, written.parse?_eq, Option.bind_some, ofJson?_of_spelled v d spelled]
  faulty := by
    intro text v written faulty
    rw [parse?, ofText?, written.parse?_eq, Option.bind_some, ofJson?_of_faulty faulty]
  followed := by
    intro text rest v written goesOn
    refine Option.eq_none_iff_forall_ne_some.mpr fun d read => ?_
    obtain ⟨w, parsed, read⟩ := Option.bind_eq_some_iff.mp read
    have whole : text ++ rest = String.ofList (text.toList ++ rest.toList) := by simp
    rw [whole] at parsed
    exact written.not_isContainer_of_followed goesOn parsed (isContainer_of_read read)

/-- A trial as an object: something of nobody's first, and then its members the other way round. -/
def remarkedTrial : Json :=
  record [("note", .array [.ofWord 1, .object []]), ("implementation", .ofString "I"),
    ("key", .ofString "k")]

/-- A definition as an array, with `null` for its mode and an object for its policy. It ends before
its timeout and its window. -/
def listedDefinition : Json :=
  .array [.ofString "S", .null, .ofString "a", .ofString "k", .array [remarkedTrial],
    record [("redirect_to_any", .null)]]

/-- Its text, with blanks around it. -/
def listedText : String :=
  " [\"S\",null,\"a\",\"k\",[\x7b\"note\":[1,\x7b\x7d],\"implementation\":\"I\",\"key\":\"k\"\x7d]," ++
    "\x7b\"redirect_to_any\":null\x7d]\n"

/-- The definition that is meant. -/
def meantDefinition : Definition where
  service := "S"
  selector := some "a"
  defaultKey := "k"
  trials := [⟨"k", "I"⟩]
  onError := .redirectToAny

theorem isWritten_listedText : Json.IsWritten listedText.toList listedDefinition := by
  have trial : remarkedTrial.Natural := by
    refine .object ?_
    simp only [List.map_cons, List.map_nil, List.forall_mem_cons]
    exact ⟨.array (List.forall_mem_cons.mpr ⟨.number 1, List.forall_mem_singleton.mpr
      (.object (List.forall_mem_nil _))⟩), .text _, .text _, List.forall_mem_nil _⟩
  have natural : listedDefinition.Natural := by
    refine .array ?_
    simp only [List.forall_mem_cons]
    exact ⟨.text _, .null, .text _, .text _, .array (List.forall_mem_singleton.mpr trial),
      .object (List.forall_mem_singleton.mpr .null), List.forall_mem_nil _⟩
  have same : listedText.toList = [' '] ++ listedDefinition.print ++ ['\n'] := by
    decide +kernel
  rw [same]
  exact .padded rfl rfl natural.isWritten

theorem isSpelled_listedDefinition : IsSpelled listedDefinition meantDefinition := by
  have trial : Trial.IsSpelled remarkedTrial ⟨"k", "I"⟩ := .object (.swap ..)
  have short : 2 ≤ 3 := by decide
  exact .of (.given .null) (.given (.set rfl)) (.cons trial .nil) (.given (.void rfl)) .leftOut
    .leftOut (.array short rfl)

/-- The text is read as what it means. It would not be if it were over after the service, nor if
there were another bracket after it. -/
theorem reads_listedText : parse? listedText = some meantDefinition ∧ parse? "[\"S\"]" = none ∧
    parse? (listedText ++ "]") = none := by
  have written : Json.IsWritten "[\"S\"]".toList (.array [.ofString "S"]) := by
    have natural : Natural (.array [.ofString "S"]) :=
      .array (List.forall_mem_singleton.mpr (.text _))
    exact natural.isWritten
  have lacks : IsFaulty (.array [.ofString "S"]) := .lacking (.array (by decide))
  exact ⟨reads_every_spelling.spelled _ _ _ isWritten_listedText isSpelled_listedDefinition,
    reads_every_spelling.faulty _ _ written lacks,
    reads_every_spelling.followed _ _ _ isWritten_listedText rfl⟩

end Definition

end TrialRouting
