import TrialRouting.Json.Reader
import TrialRouting.Proofs.Json.Tokens

/-!
# Reading values

A text spells tokens if they are read from it whatever follows that does not go on with the last
of them. The reader makes a value of its tokens: where a value must come, they lead to the place
after it. So a text that spells the tokens of a value is read as that value.
-/

namespace TrialRouting

namespace Json

mutual

/-- The tokens that spell a value. -/
def tokens : Json → List JsonToken
  | .null => [.null]
  | .bool b => [.bool b]
  | .number n => [.number n]
  | .text t => [.text t]
  | .array items => .openArray :: (itemTokens items ++ [.closeArray])
  | .object members => .openObject :: (memberTokens members ++ [.closeObject])

/-- The tokens of array items, with commas between them. -/
def itemTokens : List Json → List JsonToken
  | [] => []
  | [v] => tokens v
  | v :: rest => tokens v ++ .comma :: itemTokens rest

/-- The tokens of object members, with commas between them. -/
def memberTokens : List (JsonText × Json) → List JsonToken
  | [] => []
  | [(name, v)] => .text name :: .colon :: tokens v
  | (name, v) :: rest => .text name :: .colon :: (tokens v ++ .comma :: memberTokens rest)

end

end Json

namespace JsonToken

/-- A text spells some tokens if these are read from it wherever the last of them cannot go
on. -/
def Spells (cs : List Char) (ts : List JsonToken) : Prop :=
  ∀ rest, Stops rest → run .between (cs ++ rest) = after ts rest

/-- A mark is a token by itself, and no number or word goes on with it. -/
structure IsMark (c : Char) (t : JsonToken) : Prop where
  token : step .between c = some ([t], .between)
  stops : isNumeric c = false ∧ c.isAlpha = false

namespace Spells

variable {cs ds : List Char} {ts us : List JsonToken} {c : Char} {t : JsonToken}

theorem nil : Spells [] [] := by
  intro rest _
  exact (after_nil rest).symm

/-- Texts with a mark between them spell their tokens with the mark between them. The first text may
end in a number or a word, and the mark is what ends it. -/
theorem join (first : Spells cs ts) (mark : IsMark c t) (second : Spells ds us) :
    Spells (cs ++ c :: ds) (ts ++ t :: us) := by
  intro rest stops
  have ends : Stops (c :: (ds ++ rest)) := by
    intro _ _ same
    cases same
    exact mark.stops
  have marked : run .between (c :: (ds ++ rest)) = after (t :: us) rest := by
    rw [run_of_token mark.token, after, second rest stops, map_after]
    rfl
  rw [List.append_assoc, List.cons_append, first _ ends, after, marked, map_after]

/-- A mark in front. -/
theorem cons (mark : IsMark c t) (second : Spells cs ts) : Spells (c :: cs) (t :: ts) :=
  nil.join mark second

/-- A mark at the end. -/
theorem concat (first : Spells cs ts) (mark : IsMark c t) : Spells (cs ++ [c]) (ts ++ [t]) :=
  first.join mark nil

/-- A word spells its token. -/
theorem word {first : Char} {others : List Char} {t : JsonToken}
    (letters : others.all (·.isAlpha) = true)
    (begun : step .between first = some ([], .word [first]))
    (spelled : ofWord? (String.ofList (first :: others)) = some t) :
    Spells (first :: others) [t] := by
  intro rest stops
  have taken (cs seen : List Char) (letters : ∀ c ∈ cs, c.isAlpha = true) :
      run (.word seen) (cs ++ rest) = run (.word (cs.reverse ++ seen)) rest := by
    induction cs generalizing seen with
    | nil => rfl
    | cons c cs ih =>
      have letter : step (.word seen) c = some ([], .word (c :: seen)) := by
        simp only [step, letters c List.mem_cons_self, if_true]
      rw [List.cons_append, run_of_step _ letter,
        ih _ fun c member => letters c (List.mem_cons_of_mem _ member)]
      simp
  rw [List.cons_append, run_of_step _ begun, taken _ _ (List.all_eq_true.mp letters)]
  refine run_word ?_ stops
  simpa using spelled

end Spells

end JsonToken

namespace Json

open JsonToken

/-- The marks of arrays and objects. -/
theorem isMark_comma : IsMark ',' .comma :=
  ⟨rfl, rfl, rfl⟩

theorem isMark_colon : IsMark ':' .colon :=
  ⟨rfl, rfl, rfl⟩

/-! ### The reader -/

/-- The reader after some tokens. -/
def Place.after (place : Place) (ts : List JsonToken) : Option Place :=
  ts.foldlM Place.step place

/-- Tokens are an account of a value: wherever a value must come they lead to the place after
it. -/
def Reads (ts : List JsonToken) (v : Json) : Prop :=
  ∀ around rest, (Place.value around).after (ts ++ rest) = (around.fill v).after rest

theorem Place.after_cons {place next : Place} {t : JsonToken} (step : place.step t = some next)
    (rest : List JsonToken) : place.after (t :: rest) = next.after rest := by
  simp [Place.after, List.foldlM_cons, step]

/-- No value begins with the end of an array. So after an opening bracket the reader can tell by one
token whether the array is empty. -/
theorem exists_tokens_eq (v : Json) :
    ∃ first rest, v.tokens = first :: rest ∧ first ≠ .closeArray := by
  cases v with
  | null => exact ⟨_, _, rfl, by decide⟩
  | bool b => exact ⟨_, _, rfl, by simp⟩
  | number n => exact ⟨_, _, rfl, by simp⟩
  | text t => exact ⟨_, _, rfl, by simp⟩
  | array items => exact ⟨_, _, rfl, by decide⟩
  | object members => exact ⟨_, _, rfl, by decide⟩

/-- After an opening bracket the first item is read like any other. -/
theorem after_firstItem (v : Json) (others : List Json) (outer : Around) (rest : List JsonToken) :
    (Place.firstItem outer).after (itemTokens (v :: others) ++ rest) =
      (Place.value (.item [] outer)).after (itemTokens (v :: others) ++ rest) := by
  obtain ⟨first, more, same, proper⟩ : ∃ first more, itemTokens (v :: others) = first :: more ∧
      first ≠ .closeArray := by
    obtain ⟨first, more, same, proper⟩ := v.exists_tokens_eq
    cases others with
    | nil => exact ⟨first, more, same, proper⟩
    | cons w others =>
      have longer : itemTokens (v :: w :: others) =
          v.tokens ++ .comma :: itemTokens (w :: others) := rfl
      exact ⟨first, _, by rw [longer, same, List.cons_append], proper⟩
  have step : (Place.firstItem outer).step first = (Place.value (.item [] outer)).step first := by
    cases first <;> first | rfl | exact absurd rfl proper
  simp only [same, Place.after, List.cons_append, List.foldlM_cons, step]

/-- After an opening brace the first member is read like any other. -/
theorem after_firstName (m : JsonText × Json) (others : List (JsonText × Json)) (outer : Around)
    (rest : List JsonToken) :
    (Place.firstName outer).after (memberTokens (m :: others) ++ rest) =
      (Place.nextName [] outer).after (memberTokens (m :: others) ++ rest) := by
  cases others <;> rfl

/-- Array items lead to the end of their array. The reader keeps the items latest first, and turns
them round when the closing bracket comes. -/
theorem reads_items {items : List Json} (each : ∀ v ∈ items, Reads v.tokens v) (some' : items ≠ [])
    (before : List Json) (outer : Around) (rest : List JsonToken) :
    (Place.value (.item before outer)).after (itemTokens items ++ .closeArray :: rest) =
      (outer.fill (.array (before.reverse ++ items))).after rest := by
  induction items generalizing before with
  | nil => exact absurd rfl some'
  | cons v others ih =>
    have first := each v List.mem_cons_self
    cases others with
    | nil =>
      rw [itemTokens, first, Around.fill, Place.after_cons rfl]
      simp
    | cons w others =>
      have further := ih (fun u member => each u (List.mem_cons_of_mem _ member)) (by simp)
        (v :: before)
      rw [itemTokens, List.append_assoc, first, Around.fill, List.cons_append,
        Place.after_cons rfl, further]
      · simp
      · simp

/-- A member leads to the place after it. -/
theorem reads_member {v : Json} (value : Reads v.tokens v) (name : JsonText)
    (before : List (JsonText × Json)) (outer : Around) (rest : List JsonToken) :
    (Place.nextName before outer).after (.text name :: .colon :: (v.tokens ++ rest)) =
      (Place.afterMember ((name, v) :: before) outer).after rest := by
  rw [Place.after_cons rfl, Place.after_cons rfl, value, Around.fill]

/-- Object members lead to the end of their object, each by its name, a colon and the tokens of its
value. -/
theorem reads_members {members : List (JsonText × Json)}
    (each : ∀ m ∈ members, Reads m.2.tokens m.2)
    (some' : members ≠ []) (before : List (JsonText × Json)) (outer : Around)
    (rest : List JsonToken) :
    (Place.nextName before outer).after (memberTokens members ++ .closeObject :: rest) =
      (outer.fill (.object (before.reverse ++ members))).after rest := by
  induction members generalizing before with
  | nil => exact absurd rfl some'
  | cons m others ih =>
    obtain ⟨name, v⟩ := m
    have value : Reads v.tokens v := each (name, v) List.mem_cons_self
    cases others with
    | nil =>
      rw [memberTokens, List.cons_append, List.cons_append, reads_member value,
        Place.after_cons rfl]
      simp
    | cons m others =>
      have further := ih (fun u member => each u (List.mem_cons_of_mem _ member)) (by simp)
        ((name, v) :: before)
      rw [memberTokens, List.cons_append, List.cons_append, List.append_assoc, reads_member value,
        List.cons_append, Place.after_cons rfl, further]
      · simp
      · simp

/-- The tokens of a value are an account of it, wherever in a larger value it stands. The induction
follows the value: an array or an object is read item by item or member by member, each of which is
read as what it is. -/
theorem reads (v : Json) : Reads v.tokens v := by
  intro around rest
  match v with
  | .null | .bool _ | .number _ | .text _ => exact Place.after_cons rfl rest
  | .array [] | .object [] => exact (Place.after_cons rfl _).trans (Place.after_cons rfl rest)
  | .array (v :: others) =>
    rw [tokens, List.cons_append, List.append_assoc, Place.after_cons rfl]
    refine (after_firstItem v others around _).trans
      (reads_items (fun w member => ?_) (by simp) [] _ _)
    exact reads w
  | .object (m :: others) =>
    rw [tokens, List.cons_append, List.append_assoc, Place.after_cons rfl]
    refine (after_firstName m others around _).trans
      (reads_members (fun n member => ?_) (by simp) [] _ _)
    exact reads n.2
termination_by sizeOf v
decreasing_by
  · have smaller := List.sizeOf_lt_of_mem member
    simp only [array.sizeOf_spec]
    omega
  · have smaller := List.sizeOf_lt_of_mem member
    obtain ⟨name, w⟩ := n
    simp only [object.sizeOf_spec, Prod.mk.sizeOf_spec] at smaller ⊢
    omega

/-- A text that spells the tokens of a value is read as that value. The text ends where the tokens
do, so that the reader stops with exactly one value and nothing after it. -/
theorem parse?_of_spells {text : String} {v : Json} (spells : Spells text.toList v.tokens) :
    parse? text = some v := by
  have ended : run .between [] = some [] := rfl
  have spelled : JsonToken.ofChars? text.toList = some v.tokens := by
    have whole := spells [] (fun _ _ impossible => nomatch impossible)
    rw [List.append_nil, after, ended] at whole
    simpa [JsonToken.ofChars?] using whole
  have made : v.tokens.foldlM Place.step (.value .document) = some (.done v) := by
    have whole := v.reads .document []
    rw [List.append_nil] at whole
    exact whole
  simp only [parse?, spelled, Option.bind_eq_bind, Option.bind_some, ofTokens?, made]

end Json

end TrialRouting
