import Mathlib.Data.Option.Basic
import TrialRouting.Json.Printer
import TrialRouting.Json.Token

/-!
# Reading tokens

Decimal digits spell their number. Tokens are read by a machine that takes one character after
another. A number or a word is read as far as it reaches, so what follows must not belong to it.
-/

namespace TrialRouting

/-! ### Digits -/

/-- A digit stands for its number. -/
theorem digitValue_digitChar : ∀ n < 10, digitValue (digitChar n) = n := by
  decide

/-- The digit of a number below ten is a digit. -/
theorem isDigit_digitChar : ∀ n < 10, (digitChar n).isDigit = true := by
  decide

/-- Only nought is written as the digit nought. -/
theorem digitChar_ne_zero : ∀ n < 10, n ≠ 0 → digitChar n ≠ '0' := by
  decide

/-- One more digit at the end counts ones. -/
theorem digitsValue_append (front : List Char) (last : Char) :
    digitsValue (front ++ [last]) = 10 * digitsValue front + digitValue last := by
  rw [digitsValue, List.foldl_append]
  rfl

/-- The decimal digits of a number spell it. The induction follows the number without its last
digit, since that is how the digits are written. -/
theorem digitsValue_decimalDigits (n : Nat) : digitsValue (decimalDigits n) = n := by
  fun_induction decimalDigits n with
  | case1 n small => simp [digitsValue, digitValue_digitChar n small]
  | case2 n large ih =>
    have last : digitChar n = digitChar (n % 10) := by simp [digitChar]
    rw [digitsValue_append, ih, last, digitValue_digitChar _ (Nat.mod_lt _ (by decide))]
    omega

/-- Decimal digits are digits. -/
theorem isDigit_of_mem_decimalDigits (n : Nat) : ∀ c ∈ decimalDigits n, c.isDigit = true := by
  have last (n : Nat) : (digitChar n).isDigit = true := by
    have same : digitChar n = digitChar (n % 10) := by simp [digitChar]
    rw [same, isDigit_digitChar _ (Nat.mod_lt _ (by decide))]
  fun_induction decimalDigits n with
  | case1 n small => exact fun c member => List.mem_singleton.mp member ▸ last n
  | case2 n large ih =>
    intro c member
    rcases List.mem_append.mp member with front | back
    · exact ih c front
    · exact List.mem_singleton.mp back ▸ last n

/-- The decimal digits of a number begin with a digit, and not with nought unless that is the
number. So they are a literal, which must not begin with a nought that counts for nothing. -/
theorem exists_decimalDigits_eq (n : Nat) : ∃ first rest, decimalDigits n = first :: rest ∧
    (first = '0' → n = 0) ∧ (n = 0 → rest = []) := by
  fun_induction decimalDigits n with
  | case1 n small =>
    refine ⟨_, [], rfl, ?_, fun _ => rfl⟩
    intro zero
    exact Classical.byContradiction fun some' => digitChar_ne_zero n small some' zero
  | case2 n large ih =>
    obtain ⟨first, rest, digits, zero, -⟩ := ih
    refine ⟨first, rest ++ [digitChar n], by rw [digits]; rfl, ?_, ?_⟩
    · intro first
      have none' := zero first
      omega
    · omega

namespace Numeral

/-- Digits are taken as far as they go. -/
theorem takeDigits_append {cs rest : List Char} (digits : ∀ c ∈ cs, c.isDigit = true)
    (ends : ∀ c ∈ rest.head?, c.isDigit = false) : takeDigits (cs ++ rest) = (cs, rest) := by
  induction cs with
  | nil =>
    cases rest with
    | nil => rfl
    | cons c more =>
      have other : c.isDigit = false := ends c rfl
      simp [takeDigits, other]
  | cons c others ih =>
    have first : c.isDigit = true := digits c List.mem_cons_self
    have further := ih fun c member => digits c (List.mem_cons_of_mem _ member)
    simp only [takeDigits, Prod.mk.injEq] at further ⊢
    simp [first, further]

/-- A number that fits in 64 bits is read from its literal: the digits come to the number itself,
which is in range. -/
theorem word64?_ofNat (n : UInt64) : (ofNat n.toNat).word64? = some n := by
  have fits : n.toNat < UInt64.size := n.toNat_lt
  simp [word64?, ofNat, isPlain, digitsValue_decimalDigits, fits]

end Numeral

namespace JsonToken

/-! ### The run of the machine -/

/-- The tokens of what follows, with some in front. -/
def after (tokens : List JsonToken) (rest : List Char) : Option (List JsonToken) :=
  (run .between rest).map (tokens ++ ·)

variable {rest : List Char} {c : Char} {mode : Mode}

theorem after_nil (rest : List Char) : after [] rest = run .between rest := by
  simp [after]

/-- Tokens in front of tokens. -/
theorem map_after (tokens more : List JsonToken) (rest : List Char) :
    (after more rest).map (tokens ++ ·) = after (tokens ++ more) rest := by
  simp [after, Function.comp_def, List.append_assoc]

/-- One character after another is read. -/
theorem run_cons (mode : Mode) (c : Char) (rest : List Char) :
    run mode (c :: rest) =
      (step mode c).bind fun out => (run out.2 rest).map (out.1 ++ ·) := by
  simp only [run, Option.map_eq_bind]
  rfl

/-- A character that completes no token. -/
theorem run_of_step (next : Mode) (step : step mode c = some ([], next)) :
    run mode (c :: rest) = run next rest := by
  rw [run_cons, step]
  simp only [Option.bind_some, List.nil_append, Option.map_id']

/-- A character that completes a token and after which the machine is between tokens. -/
theorem run_of_token {t : JsonToken} (step : step mode c = some ([t], .between)) :
    run mode (c :: rest) = after [t] rest := by
  rw [run_cons, step]
  rfl

/-! ### Numbers and words -/

/-- What may follow a number or a word: nothing, or a character that belongs to neither. -/
def Stops (rest : List Char) : Prop :=
  ∀ c more, rest = c :: more → isNumeric c = false ∧ c.isAlpha = false

/-- A token that is waiting for its end is complete where it cannot go on. The character after it is
read as if it came first, so that nothing is lost between the two. -/
theorem run_of_waiting {t : JsonToken} (ends : finish mode = some [t])
    (goesOn : ∀ c more, rest = c :: more →
      step mode c = (start c).map fun out => (t :: out.1, out.2)) :
    run mode rest = after [t] rest := by
  cases rest with
  | nil =>
    have ended : finish .between = some [] := rfl
    simp only [run, ends, after, ended, Option.map_some, List.append_nil]
  | cons c more =>
    rw [after, run_cons, run_cons, goesOn c more rfl, step]
    cases start c with
    | none => rfl
    | some out => simp [Function.comp_def]

/-- A number is read as far as it reaches: up to the end of the text, or to a character that no
number goes on with. -/
theorem run_number {seen : List Char} {n : Numeral}
    (spelled : Numeral.ofChars? seen.reverse = some n) (stops : Stops rest) :
    run (.number seen) rest = after [.number n] rest := by
  refine run_of_waiting ?_ ?_
  · simp only [finish, spelled, Option.map_some]
  · intro c more same
    simp only [step, (stops c more same).1, Bool.false_eq_true, if_false, spelled]
    cases start c <;> rfl

/-- So is a word. -/
theorem run_word {seen : List Char} {t : JsonToken}
    (spelled : ofWord? (String.ofList seen.reverse) = some t) (stops : Stops rest) :
    run (.word seen) rest = after [t] rest := by
  refine run_of_waiting ?_ ?_
  · simp only [finish, spelled, Option.map_some]
  · intro c more same
    simp only [step, (stops c more same).2, Bool.false_eq_true, if_false, spelled]
    cases start c <;> rfl

/-- The characters of a number are taken one by one. -/
theorem run_numeric {cs : List Char} (all : ∀ c ∈ cs, isNumeric c = true) (seen : List Char) :
    run (.number seen) (cs ++ rest) = run (.number (cs.reverse ++ seen)) rest := by
  induction cs generalizing seen with
  | nil => rfl
  | cons c others ih =>
    have taken : step (.number seen) c = some ([], .number (c :: seen)) := by
      simp only [step, all c List.mem_cons_self, if_true]
    rw [List.cons_append, run_of_step _ taken,
      ih fun c member => all c (List.mem_cons_of_mem _ member)]
    simp

theorem isNumeric_of_isDigit (digit : c.isDigit = true) : isNumeric c = true := by
  simp [isNumeric, digit]

end JsonToken

end TrialRouting
