import TrialRouting.Proofs.Definition.Json

/-!
# How a record may be written

A record is an object of its fields in any order, with members of other names anywhere among them,
or the array of its fields. A field that has a default may be left out of an object, and at the end
of an array. An object that has a field twice, or lacks one it must have, and an array that is too
short hold no record.
-/

namespace TrialRouting

namespace Json

/-- A field is given, or it is left out and has its default. -/
inductive Slot {α : Type} (default : α) (IsSpelled : Json → α → Prop) : Option Json → α → Prop where
  | given {v : Json} {a : α} (spelled : IsSpelled v a) : Slot default IsSpelled (some v) a
  | leftOut : Slot default IsSpelled none default

/-- `null`, or a value that is set. -/
inductive Nullable {α : Type} (IsSpelled : Json → α → Prop) : Json → Option α → Prop where
  | null : Nullable IsSpelled .null none
  | set {v : Json} {a : α} (spelled : IsSpelled v a) : Nullable IsSpelled v (some a)

/-- The members of a record that are given, in the order of its fields. -/
def givenMembers (names : List String) (slots : List (Option Json)) : List (String × Json) :=
  (names.zip slots).filterMap fun (name, slot) => slot.map (name, ·)

/-- How the fields of a record are written; the last ones may be left out of an array if they have
a default, and `optional` says how many do. -/
inductive Writes (names : List String) (optional : Nat) (slots : List (Option Json)) :
    Json → Prop where
  | object {members : List (String × Json)}
      (given : (members.filter (names.contains ·.1)).Perm (givenMembers names slots)) :
      Writes names optional slots (record members)
  | array {items : List Json} {missing : Nat} (short : missing ≤ optional)
      (same : slots = items.map some ++ List.replicate missing none) :
      Writes names optional slots (.array items)

/-! ### Reading the fields -/

variable {names : List String} {optional : Nat} {slots : List (Option Json)} {v : Json}
  {members : List (String × Json)} {name : String} {slot : Option Json}

theorem givenMembers_cons (first : String) (others : List String) (slot : Option Json)
    (more : List (Option Json)) : givenMembers (first :: others) (slot :: more) =
      slot.toList.map (first, ·) ++ givenMembers others more := by
  cases slot <;> simp [givenMembers]

/-- The members given have names of fields. -/
theorem name_mem_of_mem_givenMembers {m : String × Json} (given : m ∈ givenMembers names slots) :
    m.1 ∈ names := by
  obtain ⟨⟨name, slot⟩, listed, same⟩ := List.mem_filterMap.mp given
  obtain ⟨v, -, rfl⟩ := Option.map_eq_some_iff.mp same
  exact (List.of_mem_zip listed).1

/-- Among the members given, a field has the one it was given, if it was given one. The names are
distinct, so that no other field's member can be taken for it. -/
theorem filter_givenMembers (distinct : names.Nodup) (listed : (name, slot) ∈ names.zip slots) :
    (givenMembers names slots).filter (·.1 == name) = slot.toList.map (name, ·) := by
  induction names generalizing slots with
  | nil => cases listed
  | cons first others ih =>
    cases slots with
    | nil => cases listed
    | cons s more =>
      obtain ⟨new, distinct⟩ := List.nodup_cons.mp distinct
      rw [givenMembers_cons, List.filter_append]
      rcases List.mem_cons.mp listed with here | later
      · cases here
        have others' : (givenMembers others more).filter (·.1 == name) = [] := by
          refine List.filter_eq_nil_iff.mpr fun m given same => new ?_
          exact eq_of_beq same ▸ name_mem_of_mem_givenMembers given
        rw [others', List.append_nil, List.filter_eq_self]
        intro m member
        obtain ⟨v, -, rfl⟩ := List.mem_map.mp member
        simp
      · have different : first ≠ name := by
          rintro rfl
          exact new (List.of_mem_zip later).1
        have head : (s.toList.map (first, ·)).filter (·.1 == name) = [] := by
          refine List.filter_eq_nil_iff.mpr fun m member => ?_
          obtain ⟨v, -, rfl⟩ := List.mem_map.mp member
          simpa using different
        rw [head, List.nil_append, ih distinct later]

/-- The fields of an object are found, whatever their order and whatever else is there. Only the
members with the field's own name matter, and a permutation of one member is that member. -/
theorem single?_of_given (distinct : names.Nodup)
    (given : (members.filter (names.contains ·.1)).Perm (givenMembers names slots))
    (listed : (name, slot) ∈ names.zip slots) : single? members name = some slot := by
  have known : names.contains name = true := by
    simpa using (List.of_mem_zip listed).1
  have mine : (members.filter (·.1 == name)).Perm (slot.toList.map (name, ·)) := by
    rw [← filter_givenMembers distinct listed]
    refine List.Perm.trans (.of_eq ?_) (given.filter _)
    rw [List.filter_filter]
    refine List.filter_congr fun m _ => ?_
    by_cases same : m.1 = name <;> simp [same]
    simpa using known
  unfold single?
  cases slot with
  | none => rw [List.Perm.eq_nil mine]
  | some v => rw [List.perm_singleton.mp mine]

/-- Reading one after another what can be read, with the values in the same order. This is how both
the fields of a record and the items of a list are read. -/
theorem mapM_eq_some_of_zip {α β : Type} {read : α → Option β} {as : List α} {bs : List β}
    (same : as.length = bs.length) (each : ∀ p ∈ as.zip bs, read p.1 = some p.2) :
    as.mapM read = some bs := by
  induction as generalizing bs with
  | nil =>
    rw [List.length_eq_zero_iff.mp same.symm]
    rfl
  | cons a others ih =>
    cases bs with
    | nil => cases same
    | cons b more =>
      have first : read a = some b := each (a, b) List.mem_cons_self
      have further := ih (Nat.succ.inj same) fun p member => each p (List.mem_cons_of_mem _ member)
      rw [List.mapM_cons, first, further]
      rfl

namespace Fields

/-- Fields hold what the slots have; those of an array may lack only the last of them. -/
structure Holds (f : Fields) (slots : List (Option Json)) (optional : Nat) : Prop where
  value : ∀ i, f.value? i = (slots[i]?).join
  present : (∃ values, f = .positional values) → ∀ i, i + optional < slots.length →
    ∃ v, slots[i]? = some (some v)

end Fields

/-- What is written for the fields of a record is found again. In an object the fields are looked up
by their names; in an array they are taken by their places, and those that are left out at its end
are made up for. -/
theorem Writes.exists_fields (writes : Writes names optional slots v) (distinct : names.Nodup)
    (length : names.length = slots.length) :
    ∃ f, v.fields? names = some f ∧ f.Holds slots optional := by
  cases writes with
  | @object members given =>
    refine ⟨.named slots, ?_, fun i => rfl, ?_⟩
    · rw [fields?_record, mapM_eq_some_of_zip length
        fun p listed => single?_of_given distinct given listed]
      rfl
    · rintro ⟨values, impossible⟩
      cases impossible
  | @array items missing short same =>
    have count : slots.length = items.length + missing := by simp [same]
    refine ⟨.positional slots, ?_, fun i => rfl, fun _ i bound => ?_⟩
    · have fits : items.length ≤ names.length := by omega
      have missing' : names.length - items.length = missing := by omega
      rw [fields?, if_pos fits, missing', same]
    · have below : i < items.length := by omega
      refine ⟨items[i], ?_⟩
      rw [same, List.getElem?_append_left (by simpa using below)]
      simp [below]

namespace Fields

variable {α : Type} {f : Fields} {i : Nat} {a : α} {IsSpelled : Json → α → Prop}
  {read : Json → Option α}

/-- A field that must be there is read if its value is. -/
theorem Holds.required? (holds : f.Holds slots optional) (here : slots[i]? = some (some v))
    (reads : read v = some a) : f.required? i read = some a := by
  simp [Fields.required?, holds.value, here, reads]

/-- A field with a default is read if its value is, and has its default where it is left out. -/
theorem Holds.withDefault? {default : α} (holds : f.Holds slots optional)
    (here : slots[i]? = some slot) (given : Slot default IsSpelled slot a)
    (reads : ∀ v a, IsSpelled v a → read v = some a) : f.withDefault? i default read = some a := by
  cases given with
  | given spelled => simp [Fields.withDefault?, holds.value, here, reads _ _ spelled]
  | leftOut => simp [Fields.withDefault?, holds.value, here]

end Fields

/-- A value that may be `null` is read as unset if it is, and as set otherwise. What spells a value
must not be `null` itself, or it would be taken for nothing. -/
theorem nullable?_of_spelled {α : Type} {IsSpelled : Json → α → Prop} {read : Json → Option α}
    (reads : ∀ v a, IsSpelled v a → read v = some a ∧ v ≠ .null) {v : Json} {a : Option α}
    (spelled : Nullable IsSpelled v a) : nullable? read v = some a := by
  cases spelled with
  | null => rfl
  | set spelled => exact nullable?_of_reads (reads _ _ spelled).1 (reads _ _ spelled).2

namespace Fields

variable {α : Type} {f : Fields} {i : Nat} {IsSpelled : Json → α → Prop} {read : Json → Option α}

/-- A field that may be unset is read too. It may be left out of an object, but of an array only
where a field with a default stands; so one that comes before those has to be there. -/
theorem Holds.nullable? {a : Option α} (holds : f.Holds slots optional)
    (here : slots[i]? = some slot) (early : i + optional < slots.length)
    (given : Slot none (Nullable IsSpelled) slot a)
    (reads : ∀ v a, IsSpelled v a → read v = some a ∧ v ≠ .null) : f.nullable? i read = some a := by
  have found : f.value? i = slot := by rw [holds.value, here, Option.join_some]
  cases given with
  | given spelled =>
    simp only [Fields.nullable?, found]
    exact nullable?_of_spelled reads spelled
  | leftOut =>
    cases f with
    | named values => simp only [Fields.nullable?, found]
    | positional values =>
      obtain ⟨v, present⟩ := holds.present ⟨values, rfl⟩ i early
      rw [here] at present
      cases present

end Fields

/-! ### Records that are refused -/

/-- A field is given twice. -/
inductive Repeats (names : List String) : Json → Prop where
  | object {members : List (JsonText × Json)} {field : String} (known : field ∈ names)
      (twice : 1 < members.countP (·.1 == some field)) : Repeats names (.object members)

/-- A field that has to be there is not: an object lacks one of the `required` ones, or an array
has fewer than `least` items. -/
inductive Lacks (required : List String) (least : Nat) : Json → Prop where
  | object {members : List (JsonText × Json)} {field : String} (needed : field ∈ required)
      (absent : ∀ m ∈ members, m.1 ≠ some field) : Lacks required least (.object members)
  | array {items : List Json} (short : items.length < least) : Lacks required least (.array items)

/-- A record has something for a field, by its name or at its place. -/
inductive HasField (field : String) (i : Nat) (w : Json) : Json → Prop where
  | member {members : List (JsonText × Json)} (member : (some field, w) ∈ members) :
      HasField field i w (.object members)
  | item {items : List Json} (item : items[i]? = some w) : HasField field i w (.array items)

/-- What has been read one after another. -/
theorem exists_of_mapM_eq_some {α β : Type} {read : α → Option β} {as : List α} {bs : List β}
    (all : as.mapM read = some bs) {i : Nat} {a : α} (here : as[i]? = some a) :
    ∃ b, bs[i]? = some b ∧ read a = some b := by
  induction as generalizing bs i with
  | nil => cases here
  | cons first others ih =>
    simp only [List.mapM_cons, Option.pure_def, Option.bind_eq_bind, Option.bind_eq_some_iff,
      Option.some.injEq] at all
    obtain ⟨b, firstRead, more, further, rfl⟩ := all
    cases i with
    | zero =>
      cases here
      exact ⟨b, rfl, firstRead⟩
    | succ i => exact ih further here

/-- Members whose names can be read are kept as they are. -/
theorem eq_of_namedMembers? {members : List (JsonText × Json)} {named : List (String × Json)}
    (read : namedMembers? members = some named) :
    members = named.map fun (name, v) => (some name, v) := by
  induction members generalizing named with
  | nil =>
    cases read
    rfl
  | cons m others ih =>
    simp only [namedMembers?, List.mapM_cons, Option.pure_def, Option.bind_eq_bind,
      Option.bind_eq_some_iff, Option.some.injEq] at read
    obtain ⟨first, firstRead, more, further, rfl⟩ := read
    obtain ⟨text, v⟩ := m
    obtain ⟨name, known, rfl⟩ := Option.map_eq_some_iff.mp firstRead
    dsimp only at known
    rw [List.map_cons, ← ih further, known]

/-- The fields of an object are found by their names. If they can be read at all, every name of a
member can, and each field has been given at most once. -/
theorem exists_single?_of_fields? {members : List (JsonText × Json)} {f : Fields}
    (read : (Json.object members).fields? names = some f) :
    ∃ named values, members = named.map (fun (name, v) => (some name, v)) ∧
      f = .named values ∧ ∀ (i : Nat) (field : String), names[i]? = some field →
        ∃ slot, values[i]? = some slot ∧ single? named field = some slot := by
  simp only [fields?, Option.bind_eq_bind, Option.bind_eq_some_iff, Option.pure_def,
    Option.some.injEq] at read
  obtain ⟨named, known, values, found, rfl⟩ := read
  exact ⟨named, values, eq_of_namedMembers? known, rfl,
    fun i field here => exists_of_mapM_eq_some found here⟩

/-- A record that gives a field twice is refused. The one value would do as well as the other, and
the reader does not choose; members with names of no field may come as often as they like. -/
theorem fields?_of_repeats (repeats : Repeats names v) : v.fields? names = none := by
  obtain @⟨members, field, known, twice⟩ := repeats
  refine Option.eq_none_iff_forall_ne_some.mpr fun f read => ?_
  obtain ⟨named, values, rfl, -, found⟩ := exists_single?_of_fields? read
  obtain ⟨i, here⟩ := List.mem_iff_getElem?.mp known
  obtain ⟨slot, -, single⟩ := found i field here
  have several : 1 < (named.filter (·.1 == field)).length := by
    rw [← List.countP_eq_length_filter]
    simpa [List.countP_map, Function.comp_def] using twice
  unfold single? at single
  split at single
  · next none' => simp [none'] at several
  · next one => simp [one] at several
  · cases single

variable {required : List String} {least : Nat} {f : Fields} {i : Nat} {field : String}

/-- A field that an object lacks is not found, whatever else the object has. Whether this is an
error depends on the field. -/
theorem value?_of_absent {members : List (JsonText × Json)}
    (absent : ∀ m ∈ members, m.1 ≠ some field) (here : names[i]? = some field)
    (read : (Json.object members).fields? names = some f) : f.value? i = none := by
  obtain ⟨named, values, rfl, rfl, found⟩ := exists_single?_of_fields? read
  obtain ⟨slot, listed, single⟩ := found i field here
  have none' : named.filter (·.1 == field) = [] := by
    refine List.filter_eq_nil_iff.mpr fun m member same => ?_
    exact absent (some m.1, m.2) (List.mem_map.mpr ⟨m, member, rfl⟩) (by rw [eq_of_beq same])
  rw [single?, none'] at single
  cases single
  rw [Fields.value?, listed, Option.join_some]

/-- A field that would stand after the end of an array is not found. The places behind the end are
filled with nothing, and where an array ends is all that is known of it. -/
theorem value?_of_short {items : List Json} (short : items.length ≤ i)
    (read : (Json.array items).fields? names = some f) :
    f.value? i = none ∧ ∃ values, f = .positional values := by
  simp only [fields?] at read
  split at read
  · cases read
    refine ⟨?_, _, rfl⟩
    simp only [Fields.value?]
    rw [List.getElem?_append_right (by simpa using short), List.getElem?_replicate]
    split <;> rfl
  · cases read

/-- A field that is there is found. -/
theorem value?_of_hasField {w : Json} (has : HasField field i w v) (here : names[i]? = some field)
    (read : v.fields? names = some f) : f.value? i = some w := by
  cases has with
  | @member members member =>
    obtain ⟨named, values, rfl, rfl, found⟩ := exists_single?_of_fields? read
    obtain ⟨slot, listed, single⟩ := found i field here
    obtain ⟨⟨name, v⟩, inside, same⟩ := List.mem_map.mp member
    cases same
    have mine : (field, w) ∈ named.filter (·.1 == field) := List.mem_filter.mpr ⟨inside, by simp⟩
    unfold single? at single
    split at single
    · next none' => simp [none'] at mine
    · next one =>
      rw [one, List.mem_singleton] at mine
      cases mine
      cases single
      rw [Fields.value?, listed, Option.join_some]
    · cases single
  | @item items item =>
    simp only [fields?] at read
    split at read
    · cases read
      have below := (List.getElem?_eq_some_iff.mp item).1
      simp only [Fields.value?]
      rw [List.getElem?_append_left (by simpa using below), List.getElem?_map, item]
      rfl
    · cases read

end Json

end TrialRouting
