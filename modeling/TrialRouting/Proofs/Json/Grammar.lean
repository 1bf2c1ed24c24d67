import TrialRouting.Proofs.Json.Literals
import TrialRouting.Proofs.Json.Reading

/-!
# The grammar of values

A text of the grammar is read as the value it is written for, whatever blanks stand between its
tokens, however its texts are escaped and whatever its numbers look like.
-/

namespace TrialRouting

namespace Json

/-- Blanks around something. -/
def Padded (P : List Char → Prop) (cs : List Char) : Prop :=
  ∃ before inner after, before.all JsonToken.isBlank = true ∧ after.all JsonToken.isBlank = true ∧
    P inner ∧ cs = before ++ inner ++ after

/-- A member of an object as it is written: its name and its value. -/
structure WrittenMember where
  nameText : List Char
  name : JsonText
  valueText : List Char
  value : Json

/-- How a value is written, with blanks around it. -/
inductive IsWritten : List Char → Json → Prop where
  | null : IsWritten ['n', 'u', 'l', 'l'] .null
  | yes : IsWritten ['t', 'r', 'u', 'e'] (.bool true)
  | no : IsWritten ['f', 'a', 'l', 's', 'e'] (.bool false)
  | number {cs : List Char} {n : Numeral} (literal : n.IsLiteral cs) : IsWritten cs (.number n)
  | text {cs : List Char} {t : JsonText} (written : JsonText.IsWritten cs t) :
      IsWritten cs (.text t)
  | emptyArray {blanks : List Char} (blank : blanks.all JsonToken.isBlank = true) :
      IsWritten ('[' :: (blanks ++ [']'])) (.array [])
  | array {items : List (List Char × Json)} (some' : items ≠ [])
      (each : ∀ item ∈ items, IsWritten item.1 item.2) :
      IsWritten ('[' :: ([','].intercalate (items.map (·.1)) ++ [']'])) (.array (items.map (·.2)))
  | emptyObject {blanks : List Char} (blank : blanks.all JsonToken.isBlank = true) :
      IsWritten ('\x7b' :: (blanks ++ ['\x7d'])) (.object [])
  | object {members : List WrittenMember} (some' : members ≠ [])
      (names : ∀ m ∈ members, Padded (JsonText.IsWritten · m.name) m.nameText)
      (values : ∀ m ∈ members, IsWritten m.valueText m.value) :
      IsWritten ('\x7b' :: ([','].intercalate
          (members.map fun m => m.nameText ++ ':' :: m.valueText) ++ ['\x7d']))
        (.object (members.map fun m => (m.name, m.value)))
  | padded {before cs after : List Char} {v : Json}
      (blankBefore : before.all JsonToken.isBlank = true)
      (blankAfter : after.all JsonToken.isBlank = true) (written : IsWritten cs v) :
      IsWritten (before ++ cs ++ after) v

end Json

namespace JsonToken

variable {cs rest : List Char} {ts : List JsonToken}

/-- Blanks are passed over. The machine is between tokens before and after each of them, so that
they leave nothing behind. -/
theorem run_blanks (blank : cs.all isBlank = true) (rest : List Char) :
    run .between (cs ++ rest) = run .between rest := by
  induction cs with
  | nil => rfl
  | cons b others ih =>
    rw [List.all_cons, Bool.and_eq_true] at blank
    have passed : step .between b = some ([], .between) := by
      simp only [step, start, blank.1, if_true]
    rw [List.cons_append, run_of_step _ passed, ih blank.2]

/-- No number or word goes on with a blank. -/
theorem Stops.blanks (blank : cs.all isBlank = true) (stops : Stops rest) : Stops (cs ++ rest) := by
  cases cs with
  | nil => exact stops
  | cons b others =>
    intro c more same
    rw [List.all_cons, Bool.and_eq_true] at blank
    cases same
    have here := blank.1
    simp only [isBlank, Bool.or_eq_true, decide_eq_true_eq] at here
    rcases here with ((rfl | rfl) | rfl) | rfl <;> exact ⟨rfl, rfl⟩

namespace Spells

/-- Blanks alone spell nothing. -/
theorem blanks (blank : cs.all isBlank = true) : Spells cs [] := by
  intro rest _
  rw [run_blanks blank, after_nil]

/-- Blanks around a text do not matter. -/
theorem padded {first last : List Char} (blankBefore : first.all isBlank = true)
    (blankAfter : last.all isBlank = true) (spells : Spells cs ts) :
    Spells (first ++ cs ++ last) ts := by
  intro rest stops
  rw [List.append_assoc, List.append_assoc, run_blanks blankBefore,
    spells _ (stops.blanks blankAfter), after, run_blanks blankAfter, after]

/-- The first character of a literal begins a number. -/
theorem exists_begun {n : Numeral} (literal : n.IsLiteral cs) :
    ∃ first others, cs = first :: others ∧
      step .between first = some ([], .number [first]) := by
  obtain ⟨first, others, rfl, begins⟩ := literal.exists_cons
  have other (c : Char) (none' : (c.isDigit || c = '-') = false) : first ≠ c := by
    rintro rfl
    rcases begins with digit | rfl
    · simp [digit] at none'
    · cases none'
  refine ⟨first, others, rfl, ?_⟩
  simp [step, start, isBlank, begins, other ' ' rfl, other '\t' rfl, other '\n' rfl,
    other '\r' rfl, other '"' rfl]

/-- A number literal spells its token. Its first character begins a number, the others go on with
it, and whatever stops it shows that it is complete. -/
theorem number {n : Numeral} (literal : n.IsLiteral cs) : Spells cs [.number n] := by
  have numeric := literal.isNumeric
  have spelled := literal.ofChars?_eq
  obtain ⟨first, others, rfl, begun⟩ := exists_begun literal
  intro rest stops
  rw [List.cons_append, run_of_step _ begun,
    run_numeric fun c member => numeric c (List.mem_cons_of_mem _ member)]
  exact run_number (by simpa using spelled) stops

/-- A piece of a text is taken, as it is, by a short escape, or by the four digits of its unit, one
after the other. -/
theorem run_piece {piece : TextPiece} (written : piece.IsWritten cs) (t : PartialText)
    (rest : List Char) : run (.text t) (cs ++ rest) = run (.text (t.take piece)) rest := by
  cases written with
  | @plain c notQuote notBackslash visible =>
    refine run_of_step _ ?_
    simp [step, notQuote, notBackslash, Nat.not_lt.mpr visible, PartialText.take]
  | @short letter c known =>
    have unit : letter ≠ 'u' := by
      rintro rfl
      cases known
    have escaped : step (.escape t) letter = some ([], .text (t.take (.char c))) := by
      simp [step, unit, known, PartialText.take]
    rw [List.cons_append, run_of_step (.escape t) rfl, List.cons_append, run_of_step _ escaped,
      List.nil_append]
  | @digits a b c d h i j k first second third fourth =>
    have one : step (.unit t 3 0) a = some ([], .unit t 2 h) := by simp [step, first]
    have two : step (.unit t 2 h) b = some ([], .unit t 1 (16 * h + i)) := by simp [step, second]
    have three : step (.unit t 1 (16 * h + i)) c =
        some ([], .unit t 0 (16 * (16 * h + i) + j)) := by simp [step, third]
    have four : step (.unit t 0 (16 * (16 * h + i) + j)) d =
        some ([], .text (t.pushUnit (16 * (16 * (16 * h + i) + j) + k))) := by
      simp [step, fourth]
    rw [List.cons_append, run_of_step (.escape t) rfl, List.cons_append,
      run_of_step (.unit t 3 0) rfl, List.cons_append, run_of_step _ one, List.cons_append,
      run_of_step _ two, List.cons_append, run_of_step _ three, List.cons_append,
      run_of_step _ four, List.nil_append]
    rfl

/-- So are all of them. -/
theorem run_pieces {parts : List (List Char × TextPiece)}
    (each : ∀ part ∈ parts, part.2.IsWritten part.1) (t : PartialText) (rest : List Char) :
    run (.text t) (parts.flatMap (·.1) ++ rest) =
      run (.text ((parts.map (·.2)).foldl PartialText.take t)) rest := by
  induction parts generalizing t with
  | nil => rfl
  | cons part others ih =>
    rw [List.flatMap_cons, List.append_assoc, run_piece (each part List.mem_cons_self),
      ih (fun part member => each part (List.mem_cons_of_mem _ member))]
    rfl

/-- A text spells its token: the quote begins it, its pieces are taken one by one, and the closing
quote completes it at once. -/
theorem text {t : JsonText} (written : JsonText.IsWritten cs t) : Spells cs [.text t] := by
  intro rest _
  obtain ⟨parts, each⟩ := written
  have begun : step .between '"' = some ([], .text {}) := rfl
  have content := PartialText.finish_eq (parts.map (·.2)) []
  rw [List.cons_append, run_of_step _ begun, List.append_assoc, run_pieces each, List.cons_append,
    List.nil_append]
  refine run_of_token ?_
  simp only [step, if_true, content]
  rfl

/-- A member spells its name and the tokens of its value. There may be blanks around the name, on
either side of it, and around the value. -/
theorem member {nameText valueText : List Char} {name : JsonText} {v : Json}
    (named : Json.Padded (JsonText.IsWritten · name) nameText) (value : Spells valueText v.tokens) :
    Spells (nameText ++ ':' :: valueText) (.text name :: .colon :: v.tokens) := by
  obtain ⟨first, inner, last, blankBefore, blankAfter, written, rfl⟩ := named
  exact (padded blankBefore blankAfter (text written)).join Json.isMark_colon value

/-- Items with commas between them. -/
theorem items {items : List (List Char × Json)}
    (each : ∀ item ∈ items, Spells item.1 item.2.tokens) :
    Spells ([','].intercalate (items.map (·.1))) (Json.itemTokens (items.map (·.2))) := by
  induction items with
  | nil => exact .nil
  | cons item others ih =>
    have first := each item List.mem_cons_self
    have further := ih fun item member => each item (List.mem_cons_of_mem _ member)
    cases others with
    | nil => simpa [Json.itemTokens, List.intercalate] using first
    | cons next others =>
      have all := first.join Json.isMark_comma further
      simpa [Json.itemTokens, List.intercalate] using all

/-- Members with commas between them. -/
theorem members {members : List Json.WrittenMember}
    (names : ∀ m ∈ members, Json.Padded (JsonText.IsWritten · m.name) m.nameText)
    (values : ∀ m ∈ members, Spells m.valueText m.value.tokens) :
    Spells ([','].intercalate (members.map fun m => m.nameText ++ ':' :: m.valueText))
      (Json.memberTokens (members.map fun m => (m.name, m.value))) := by
  induction members with
  | nil => exact .nil
  | cons m others ih =>
    have first := member (names m List.mem_cons_self) (values m List.mem_cons_self)
    have further := ih (fun m member => names m (List.mem_cons_of_mem _ member))
      (fun m member => values m (List.mem_cons_of_mem _ member))
    cases others with
    | nil => simpa [Json.memberTokens, List.intercalate] using first
    | cons next others =>
      have all := first.join Json.isMark_comma further
      simpa [Json.memberTokens, List.intercalate] using all

/-- Between two marks it does not matter what follows. -/
theorem closed {c d : Char} {t u : JsonToken} (first : IsMark c t) (spells : Spells cs ts)
    (last : IsMark d u) (rest : List Char) :
    run .between (c :: (cs ++ [d]) ++ rest) = after (t :: (ts ++ [u])) rest := by
  have stops : Stops (d :: rest) := by
    intro e more same
    cases same
    exact last.stops
  have opened := spells.cons first _ stops
  rw [after, run_of_token last.token, map_after] at opened
  simpa using opened

end Spells

end JsonToken

namespace Json

open JsonToken

variable {cs rest : List Char} {v : Json}

namespace IsWritten

/-- However a value is written, the text spells its tokens. The induction follows the grammar, and
each of its rules is a lemma on the texts that it puts together. -/
theorem spells (written : IsWritten cs v) : Spells cs v.tokens := by
  induction written with
  | null => exact .word rfl rfl rfl
  | yes => exact .word rfl rfl rfl
  | no => exact .word rfl rfl rfl
  | number literal => exact .number literal
  | text written => exact .text written
  | emptyArray blank => exact ((Spells.blanks blank).concat ⟨rfl, rfl, rfl⟩).cons ⟨rfl, rfl, rfl⟩
  | array _ _ ih => exact ((Spells.items ih).concat ⟨rfl, rfl, rfl⟩).cons ⟨rfl, rfl, rfl⟩
  | emptyObject blank => exact ((Spells.blanks blank).concat ⟨rfl, rfl, rfl⟩).cons ⟨rfl, rfl, rfl⟩
  | object _ names _ ih =>
    exact ((Spells.members names ih).concat ⟨rfl, rfl, rfl⟩).cons ⟨rfl, rfl, rfl⟩
  | padded blankBefore blankAfter _ ih => exact ih.padded blankBefore blankAfter

/-- What is written for a value is read as that value. -/
theorem parse?_eq {text : String} (written : IsWritten text.toList v) : parse? text = some v :=
  parse?_of_spells written.spells

end IsWritten

end Json

end TrialRouting
