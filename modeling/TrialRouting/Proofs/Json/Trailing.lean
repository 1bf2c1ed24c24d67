import TrialRouting.Proofs.Json.Grammar

/-!
# What follows a value

An array or an object has been read as soon as its closing mark has come. If anything but blanks
follows, further tokens do, and no value is made of them; anything that begins like another value
is no array and no object. So a text that goes on after a value is not read as an array or an
object.
-/

namespace TrialRouting

namespace JsonToken

variable {cs rest : List Char} {ts out : List JsonToken} {mode next : Mode} {c : Char}

/-- A token that is a value by itself. -/
inductive IsScalar : JsonToken → Prop where
  | null : IsScalar .null
  | bool (b : Bool) : IsScalar (.bool b)
  | number (n : Numeral) : IsScalar (.number n)
  | text (t : JsonText) : IsScalar (.text t)

theorem isScalar_of_ofWord? {word : String} {t : JsonToken} (found : ofWord? word = some t) :
    t.IsScalar := by
  unfold ofWord? at found
  split at found
  · cases found
    exact .null
  · cases found
    exact .bool _
  · cases found
    exact .bool _
  · cases found

/-- What has been begun goes on, or it is complete and its token comes first. Whatever it is, a
number, a word or a text, that token is a value by itself. -/
theorem step_waiting (waits : mode ≠ .between) (stepped : step mode c = some (out, next)) :
    (out = [] ∧ next ≠ .between) ∨ ∃ t more, out = t :: more ∧ t.IsScalar := by
  cases mode with
  | between => exact absurd rfl waits
  | word seen =>
    simp only [step] at stepped
    split at stepped
    · cases stepped
      exact .inl ⟨rfl, by simp⟩
    · simp only [Option.bind_eq_bind, Option.bind_eq_some_iff] at stepped
      obtain ⟨t, word, ⟨tokens, place⟩, -, same⟩ := stepped
      cases same
      exact .inr ⟨t, tokens, rfl, isScalar_of_ofWord? word⟩
  | number seen =>
    simp only [step] at stepped
    split at stepped
    · cases stepped
      exact .inl ⟨rfl, by simp⟩
    · simp only [Option.bind_eq_bind, Option.bind_eq_some_iff] at stepped
      obtain ⟨n, -, ⟨tokens, place⟩, -, same⟩ := stepped
      cases same
      exact .inr ⟨.number n, tokens, rfl, .number n⟩
  | text t =>
    simp only [step] at stepped
    split at stepped
    · cases stepped
      exact .inr ⟨_, [], rfl, .text _⟩
    · split at stepped
      · cases stepped
        exact .inl ⟨rfl, by simp⟩
      · split at stepped
        · cases stepped
        · cases stepped
          exact .inl ⟨rfl, by simp⟩
  | escape t =>
    simp only [step] at stepped
    split at stepped
    · cases stepped
      exact .inl ⟨rfl, by simp⟩
    · obtain ⟨e, -, same⟩ := Option.map_eq_some_iff.mp stepped
      cases same
      exact .inl ⟨rfl, by simp⟩
  | unit t missing value =>
    simp only [step, Option.bind_eq_bind, Option.bind_eq_some_iff] at stepped
    obtain ⟨digit, -, same⟩ := stepped
    cases missing <;> cases same <;> exact .inl ⟨rfl, by simp⟩

/-- What has been begun becomes a value by itself, whatever else follows. The induction follows the
characters that are still to be read. -/
theorem run_waiting (waits : mode ≠ .between) (read : run mode cs = some ts) :
    ∃ t more, ts = t :: more ∧ t.IsScalar := by
  induction cs generalizing mode ts with
  | nil =>
    cases mode with
    | between => exact absurd rfl waits
    | word seen =>
      obtain ⟨t, word, rfl⟩ := Option.map_eq_some_iff.mp read
      exact ⟨t, [], rfl, isScalar_of_ofWord? word⟩
    | number seen =>
      obtain ⟨n, -, rfl⟩ := Option.map_eq_some_iff.mp read
      exact ⟨.number n, [], rfl, .number n⟩
    | text | escape | unit => cases read
  | cons c others ih =>
    rw [run_cons, Option.bind_eq_some_iff] at read
    obtain ⟨⟨out, next⟩, stepped, further⟩ := read
    obtain ⟨more, read, rfl⟩ := Option.map_eq_some_iff.mp further
    rcases step_waiting waits stepped with ⟨rfl, waits⟩ | ⟨t, tokens, rfl, scalar⟩
    · exact ih waits read
    · exact ⟨t, tokens ++ more, rfl, scalar⟩

theorem run_begun (mode : Mode) (others rest : List Char) (step : step .between c = some ([], mode))
    (waits : mode ≠ .between) (read : run .between (c :: others ++ rest) = some ts) :
    ∃ t more, ts = t :: more ∧ t.IsScalar := by
  rw [List.cons_append, run_of_step _ step] at read
  exact run_waiting waits read

/-- Only blanks are no tokens. Every other character is a mark, which is a token, or begins
something that becomes one. -/
theorem isBlank_of_run_eq_nil (read : run .between cs = some []) : cs.all isBlank = true := by
  induction cs with
  | nil => rfl
  | cons c others ih =>
    rw [run_cons, Option.bind_eq_some_iff] at read
    obtain ⟨⟨out, next⟩, stepped, further⟩ := read
    obtain ⟨more, read, none'⟩ := Option.map_eq_some_iff.mp further
    obtain ⟨rfl, rfl⟩ := List.append_eq_nil_iff.mp none'
    have again : next = .between := by
      by_contra waits
      obtain ⟨t, more, some', -⟩ := run_waiting waits read
      cases some'
    subst again
    have blank : isBlank c = true := by
      simp only [step, start] at stepped
      split at stepped
      · assumption
      · split at stepped
        · cases stepped
        · split at stepped
          · cases stepped
          · split at stepped
            · cases stepped
            · obtain ⟨t, -, same⟩ := Option.map_eq_some_iff.mp stepped
              cases same
    rw [List.all_cons, blank, ih read, Bool.and_self]

end JsonToken

namespace Json

open JsonToken

variable {cs rest : List Char} {v : Json}

/-- An array or an object. -/
inductive IsContainer : Json → Prop where
  | array (items : List Json) : IsContainer (.array items)
  | object (members : List (JsonText × Json)) : IsContainer (.object members)

namespace IsWritten

/-- An array or an object has been read when its closing mark has come, whatever follows. Unlike a
number or a word it needs no next character to show that it has ended. -/
theorem run_container (written : IsWritten cs v) (container : v.IsContainer) (rest : List Char) :
    run .between (cs ++ rest) = after v.tokens rest := by
  induction written generalizing rest with
  | null | yes | no | number | text => cases container
  | emptyArray blank => exact (Spells.blanks blank).closed ⟨rfl, rfl, rfl⟩ ⟨rfl, rfl, rfl⟩ rest
  | array _ each =>
    exact (Spells.items fun item member => (each item member).spells).closed ⟨rfl, rfl, rfl⟩
      ⟨rfl, rfl, rfl⟩ rest
  | emptyObject blank => exact (Spells.blanks blank).closed ⟨rfl, rfl, rfl⟩ ⟨rfl, rfl, rfl⟩ rest
  | object _ names values =>
    exact (Spells.members names fun m member => (values m member).spells).closed ⟨rfl, rfl, rfl⟩
      ⟨rfl, rfl, rfl⟩ rest
  | @padded first inner last v blankBefore blankAfter _ ih =>
    rw [List.append_assoc, List.append_assoc, run_blanks blankBefore, ih container, after,
      run_blanks blankAfter, after]

/-- What begins like any other value is a value by itself. What follows may belong to it, as more
digits belong to a number; but no array or object comes of that. -/
theorem run_scalar (written : IsWritten cs v) (scalar : ¬ v.IsContainer) (rest : List Char)
    {ts : List JsonToken} (read : run .between (cs ++ rest) = some ts) :
    ∃ t more, ts = t :: more ∧ t.IsScalar := by
  induction written generalizing rest with
  | null => exact run_begun (.word ['n']) ['u', 'l', 'l'] rest rfl (by simp) read
  | yes => exact run_begun (.word ['t']) ['r', 'u', 'e'] rest rfl (by simp) read
  | no => exact run_begun (.word ['f']) ['a', 'l', 's', 'e'] rest rfl (by simp) read
  | number literal =>
    obtain ⟨first, others, rfl, numeric⟩ := Spells.exists_begun literal
    exact run_begun _ others rest numeric (by simp) read
  | text written =>
    obtain ⟨parts, each⟩ := written
    exact run_begun (.text {}) _ rest rfl (by simp) read
  | emptyArray => exact absurd (.array _) scalar
  | array => exact absurd (.array _) scalar
  | emptyObject => exact absurd (.object _) scalar
  | object => exact absurd (.object _) scalar
  | @padded first inner last v blankBefore blankAfter _ ih =>
    rw [List.append_assoc, List.append_assoc, run_blanks blankBefore] at read
    exact ih scalar _ read

/-- A text that goes on after a value is not read as an array or an object. If the value is one,
further tokens follow and the reader has no place for them; if it is none, the text begins like one
that is read as no array and no object either. -/
theorem not_isContainer_of_followed (written : IsWritten cs v) (goesOn : rest.all isBlank = false)
    {w : Json} (read : parse? (String.ofList (cs ++ rest)) = some w) : ¬ w.IsContainer := by
  simp only [parse?, String.toList_ofList, JsonToken.ofChars?, Option.bind_eq_bind,
    Option.bind_eq_some_iff] at read
  obtain ⟨ts, tokens, made⟩ := read
  by_cases container : v.IsContainer
  · rw [written.run_container container, after, Option.map_eq_some_iff] at tokens
    obtain ⟨more, others, rfl⟩ := tokens
    cases more with
    | nil =>
      rw [isBlank_of_run_eq_nil others] at goesOn
      cases goesOn
    | cons t more =>
      have ended : (v.tokens ++ t :: more).foldlM Place.step (.value .document) = none := by
        have whole := v.reads .document (t :: more)
        exact whole
      simp [ofTokens?, ended] at made
  · obtain ⟨t, more, rfl, scalar⟩ := written.run_scalar container rest tokens
    intro other
    cases scalar <;> cases more <;> cases made <;> cases other

end IsWritten

end Json

end TrialRouting
