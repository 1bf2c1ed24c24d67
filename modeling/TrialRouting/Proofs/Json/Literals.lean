import TrialRouting.Proofs.Json.Tokens

/-!
# The grammar of numbers and texts

Every number literal and every way to write a text is read as one token. A text is written piece by
piece: a character as it is or by a short escape, or a 16-bit unit by its four digits. Two units
that are the halves of a surrogate pair are one character, and a half that stands alone makes a
text that no string can hold.
-/

namespace TrialRouting

/-! ### Numbers -/

namespace Numeral

/-- All of the characters are digits. -/
def AreDigits (cs : List Char) : Prop :=
  ∀ c ∈ cs, c.isDigit = true

/-- The end of a literal: nothing, or `e`, perhaps a sign, and digits. -/
inductive IsExponent : List Char → Option Int → Prop where
  | absent : IsExponent [] none
  | present {mark : Char} {sign digits : List Char} (letter : mark = 'e' ∨ mark = 'E')
      (signed : sign = [] ∨ sign = ['+'] ∨ sign = ['-']) (some' : digits ≠ [])
      (all : AreDigits digits) :
      IsExponent (mark :: (sign ++ digits))
        (some (if sign = ['-'] then -(digitsValue digits : Int) else digitsValue digits))

/-- A number literal: perhaps a minus sign, digits without a leading nought, perhaps a point with
digits, perhaps an exponent. -/
structure IsLiteral (cs : List Char) (n : Numeral) : Prop where
  present : n.whole ≠ []
  whole : AreDigits n.whole
  proper : n.whole.length = 1 ∨ n.whole.head? ≠ some '0'
  fraction : AreDigits n.fraction
  spelled : ∃ power, IsExponent power n.exponent ∧
    cs = (if n.negative then ['-'] else []) ++ n.whole ++
      (if n.fraction = [] then [] else '.' :: n.fraction) ++ power

namespace IsExponent

variable {cs : List Char} {power : Option Int}

/-- An exponent is read back, with its sign. Without one it is positive, and the first digit tells
that there is none. -/
theorem exponent?_eq (exponent : IsExponent cs power) : exponent? cs = some power := by
  cases exponent with
  | absent => rfl
  | @present mark sign digits letter signed some' all =>
    have every : digits.all (·.isDigit) = true := List.all_eq_true.mpr all
    obtain ⟨first, others, rfl⟩ := List.exists_cons_of_ne_nil some'
    have digit : first.isDigit = true := all first List.mem_cons_self
    have unsigned : first ≠ '-' ∧ first ≠ '+' := by
      constructor <;> (rintro rfl; exact absurd digit (by decide))
    rcases signed with rfl | rfl | rfl <;> simp_all [exponent?]

/-- It begins with no digit and no point. -/
theorem head_ne (exponent : IsExponent cs power) :
    ∀ c ∈ cs.head?, c.isDigit = false ∧ c ≠ '.' := by
  cases exponent with
  | absent => simp
  | present letter => rcases letter with rfl | rfl <;> simp

/-- All of its characters belong to numbers. -/
theorem isNumeric (exponent : IsExponent cs power) :
    ∀ c ∈ cs, JsonToken.isNumeric c = true := by
  cases exponent with
  | absent => simp
  | present letter signed _ all =>
    intro c member
    rcases List.mem_cons.mp member with rfl | member
    · rcases letter with rfl | rfl <;> rfl
    · rcases List.mem_append.mp member with sign | digit
      · rcases signed with rfl | rfl | rfl
        · cases sign
        · rw [List.mem_singleton.mp sign]
          rfl
        · rw [List.mem_singleton.mp sign]
          rfl
      · exact JsonToken.isNumeric_of_isDigit (all c digit)

end IsExponent

namespace IsLiteral

variable {cs : List Char} {n : Numeral}

/-- The digits before the point do not begin with a sign. -/
theorem head_ne (literal : IsLiteral cs n) (rest : List Char) :
    ∃ first others, n.whole ++ rest = first :: others ∧ first ≠ '-' ∧ first.isDigit = true := by
  obtain ⟨first, others, whole⟩ := List.exists_cons_of_ne_nil literal.present
  have digit : first.isDigit = true := literal.whole first (by simp [whole])
  refine ⟨first, others ++ rest, by rw [whole]; rfl, ?_, digit⟩
  rintro rfl
  exact absurd digit (by decide)

/-- A literal begins with a digit or a minus sign. -/
theorem exists_cons (literal : IsLiteral cs n) :
    ∃ first others, cs = first :: others ∧ (first.isDigit = true ∨ first = '-') := by
  obtain ⟨power, -, rfl⟩ := literal.spelled
  cases n.negative with
  | true => exact ⟨'-', _, rfl, .inr rfl⟩
  | false =>
    obtain ⟨first, others, same, -, digit⟩ :=
      literal.head_ne ((if n.fraction = [] then [] else '.' :: n.fraction) ++ power)
    exact ⟨first, others, by simpa using same, .inl digit⟩

/-- A literal is read back. Its parts are taken one after the other, each as far as it goes: the
digits before the point end at the point or at the exponent, which begins with neither a digit nor a
point. -/
theorem ofChars?_eq (literal : IsLiteral cs n) : ofChars? cs = some n := by
  obtain ⟨power, exponent, rfl⟩ := literal.spelled
  have proper : n.whole.isEmpty = false ∧ (n.whole.length = 1 ∨ n.whole.head? ≠ some '0') :=
    ⟨by simpa using literal.present, literal.proper⟩
  have whole : takeDigits
      (n.whole ++ ((if n.fraction = [] then [] else '.' :: n.fraction) ++ power)) =
      (n.whole, (if n.fraction = [] then [] else '.' :: n.fraction) ++ power) := by
    refine takeDigits_append literal.whole fun c first => ?_
    split at first
    · exact (exponent.head_ne c first).1
    · cases first
      rfl
  have fraction : takeDigits (n.fraction ++ power) = (n.fraction, power) :=
    takeDigits_append literal.fraction fun c first => (exponent.head_ne c first).1
  obtain ⟨first, others, same, sign, -⟩ :=
    literal.head_ne ((if n.fraction = [] then [] else '.' :: n.fraction) ++ power)
  have pointless : ∀ more, power ≠ '.' :: more := by
    rintro more rfl
    exact (exponent.head_ne '.' rfl).2 rfl
  rw [List.append_assoc, List.append_assoc]
  obtain ⟨negative, w, f, e⟩ := n
  dsimp only at *
  by_cases pointed : f = []
  · subst pointed
    cases negative <;> simp_all [ofChars?, guard, exponent.exponent?_eq]
  · cases negative <;> simp_all [ofChars?, guard, exponent.exponent?_eq]

/-- All of its characters belong to numbers. -/
theorem isNumeric (literal : IsLiteral cs n) : ∀ c ∈ cs, JsonToken.isNumeric c = true := by
  obtain ⟨power, exponent, rfl⟩ := literal.spelled
  intro c member
  simp only [List.mem_append] at member
  rcases member with ((sign | whole) | point) | power
  · cases negative : n.negative <;> simp_all
    rfl
  · exact JsonToken.isNumeric_of_isDigit (literal.whole c whole)
  · split at point
    · cases point
    · rcases List.mem_cons.mp point with rfl | digit
      · rfl
      · exact JsonToken.isNumeric_of_isDigit (literal.fraction c digit)
  · exact exponent.isNumeric c power

end IsLiteral

end Numeral

/-! ### Texts -/

/-- A piece of a text between its quotes. -/
inductive TextPiece where
  | char (c : Char)
  /-- An escaped 16-bit unit. -/
  | unit (u : Nat)

namespace TextPiece

/-- How a piece is written. -/
inductive IsWritten : List Char → TextPiece → Prop where
  | plain {c : Char} (notQuote : c ≠ '"') (notBackslash : c ≠ '\\') (visible : 32 ≤ c.toNat) :
      IsWritten [c] (.char c)
  | short {letter c : Char} (known : escapedChar? letter = some c) :
      IsWritten ['\\', letter] (.char c)
  | digits {a b c d : Char} {h i j k : Nat} (first : hexValue? a = some h)
      (second : hexValue? b = some i) (third : hexValue? c = some j)
      (fourth : hexValue? d = some k) :
      IsWritten ['\\', 'u', a, b, c, d] (.unit (16 * (16 * (16 * h + i) + j) + k))

/-- The first half of a surrogate pair. -/
def IsHigh (u : Nat) : Prop := 0xD800 ≤ u ∧ u < 0xDC00

/-- The second half. -/
def IsLow (u : Nat) : Prop := 0xDC00 ≤ u ∧ u < 0xE000

instance (u : Nat) : Decidable (IsHigh u) := inferInstanceAs (Decidable (_ ∧ _))
instance (u : Nat) : Decidable (IsLow u) := inferInstanceAs (Decidable (_ ∧ _))

/-- The characters that pieces stand for, unless a half stands alone. -/
def content : List TextPiece → Option (List Char)
  | [] => some []
  | .char c :: rest => (content rest).map (c :: ·)
  | .unit u :: rest =>
      if IsHigh u then
        match rest with
        | .unit v :: more =>
            if IsLow v then
              (content more).map (Char.ofNat (0x10000 + (u - 0xD800) * 0x400 + (v - 0xDC00)) :: ·)
            else none
        | _ => none
      else if IsLow u then none
      else (content rest).map (Char.ofNat u :: ·)

end TextPiece

/-- How a text is written, between its quotes. -/
inductive JsonText.IsWritten : List Char → JsonText → Prop where
  | of (parts : List (List Char × TextPiece)) (each : ∀ part ∈ parts, part.2.IsWritten part.1) :
      IsWritten ('"' :: (parts.flatMap (·.1) ++ ['"']))
        ((TextPiece.content (parts.map (·.2))).map String.ofList)

namespace PartialText

/-- One more piece. -/
def take (t : PartialText) : TextPiece → PartialText
  | .char c => t.push c
  | .unit u => t.pushUnit u

variable {t : PartialText} {pieces : List TextPiece} {seen : List Char} {u : Nat}

theorem pushUnit_of_high (high : TextPiece.IsHigh u) :
    t.pushUnit u = { t with half := some u, broken := t.broken || t.half.isSome } :=
  if_pos high

theorem pushUnit_of_low (low : TextPiece.IsLow u) :
    t.pushUnit u = match t.half with
      | some h =>
          { seen := Char.ofNat (0x10000 + (h - 0xD800) * 0x400 + (u - 0xDC00)) :: t.seen
            half := none
            broken := t.broken }
      | none => { t with broken := true } := by
  have high : ¬ TextPiece.IsHigh u := fun high => Nat.lt_irrefl _ (Nat.lt_of_lt_of_le high.2 low.1)
  exact (if_neg high).trans (if_pos low)

theorem pushUnit_of_char (high : ¬ TextPiece.IsHigh u) (low : ¬ TextPiece.IsLow u) :
    t.pushUnit u = t.push (Char.ofNat u) :=
  (if_neg high).trans (if_neg low)

/-- Nothing makes up for a half that stood alone. The text is read to its end all the same, since it
may be in a place where nobody looks at it. -/
theorem finish_of_broken (broken : t.broken = true) : (pieces.foldl take t).finish = none := by
  induction pieces generalizing t with
  | nil => simp [finish, broken]
  | cons piece rest ih =>
    refine ih ?_
    cases piece with
    | char c => simp [take, push, broken]
    | unit u =>
      by_cases high : TextPiece.IsHigh u
      · simp [take, pushUnit_of_high high, broken]
      · by_cases low : TextPiece.IsLow u
        · simp only [take, pushUnit_of_low low]
          cases t.half <;> simp [broken]
        · simp [take, pushUnit_of_char high low, push, broken]

/-- A first half is followed by a second one, or it stands alone. Anything else that comes after it,
another first half included, leaves the text broken. -/
theorem finish_of_half :
    (pieces.foldl take { seen, half := some u }).finish = match pieces with
      | .unit v :: more =>
          if TextPiece.IsLow v then
            (more.foldl take
              { seen := Char.ofNat (0x10000 + (u - 0xD800) * 0x400 + (v - 0xDC00)) :: seen }).finish
          else none
      | _ => none := by
  cases pieces with
  | nil => rfl
  | cons piece rest =>
    cases piece with
    | char c =>
      rw [List.foldl_cons]
      exact finish_of_broken (by simp [take, push])
    | unit v =>
      by_cases low : TextPiece.IsLow v
      · simp only [List.foldl_cons, take, pushUnit_of_low low, low, if_true]
      · simp only [low, if_false, List.foldl_cons]
        refine finish_of_broken ?_
        by_cases high : TextPiece.IsHigh v
        · simp [take, pushUnit_of_high high]
        · simp [take, pushUnit_of_char high low, push]

/-- A text that has been read piece by piece holds what its pieces stand for. The induction follows
the pieces; a first half is kept back until the next piece has shown whether it belongs to a
pair. -/
theorem finish_eq (pieces : List TextPiece) (seen : List Char) :
    (pieces.foldl take { seen }).finish =
      (TextPiece.content pieces).map fun cs => String.ofList (seen.reverse ++ cs) := by
  have begun {u : Nat} (high : TextPiece.IsHigh u) (seen : List Char) :
      PartialText.take { seen } (.unit u) = { seen, half := some u } :=
    pushUnit_of_high high
  fun_induction TextPiece.content pieces generalizing seen with
  | case1 => simp [finish]
  | case2 c rest ih => simp [take, push, ih, Function.comp_def]
  | case3 u high v more low ih =>
    rw [List.foldl_cons, begun high, finish_of_half]
    simp [low, ih, Function.comp_def]
  | case4 u high v more low =>
    rw [List.foldl_cons, begun high, finish_of_half]
    simp [low]
  | case5 u rest high other =>
    rw [List.foldl_cons, begun high, finish_of_half]
    split
    · next v more => exact absurd rfl (other v more)
    · rfl
  | case6 u rest high low =>
    rw [List.foldl_cons, take, pushUnit_of_low low]
    exact finish_of_broken rfl
  | case7 u rest high low ih =>
    rw [List.foldl_cons, take, pushUnit_of_char high low]
    simp [push, ih, Function.comp_def]

end PartialText

end TrialRouting
