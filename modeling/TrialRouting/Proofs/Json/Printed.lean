import TrialRouting.Proofs.Json.Grammar

/-!
# Values as they are printed

What the printer writes for a value whose numbers are natural, which are all that is ever written,
belongs to the grammar of values. So parsing a printed value gives it back.
-/

namespace TrialRouting

/-! ### Numbers -/

namespace Numeral

/-- The decimal digits of a number are a literal of it. -/
theorem isLiteral_decimalDigits (n : Nat) : (ofNat n).IsLiteral (decimalDigits n) := by
  obtain ⟨first, rest, digits, zero, single⟩ := exists_decimalDigits_eq n
  have proper : rest = [] ∨ ¬ first = '0' := by
    by_cases nought : first = '0'
    · exact .inl (single (zero nought))
    · exact .inr nought
  refine ⟨?_, isDigit_of_mem_decimalDigits n, ?_, ?_, [], .absent, ?_⟩
  · simp [ofNat, digits]
  · simpa [ofNat, digits] using proper
  · exact fun _ impossible => absurd impossible List.not_mem_nil
  · simp [ofNat]

end Numeral

/-! ### Texts -/

namespace JsonText

/-- A hexadecimal digit stands for its number. -/
theorem hexValue?_hexChar : ∀ n < 16, hexValue? (Json.hexChar n) = some n := by
  decide

/-- A character below the blank is printed as its unit, in four hexadecimal digits of which the
first two are noughts. -/
theorem isWritten_unit {c : Char} (small : c.toNat < 32) :
    (TextPiece.unit c.toNat).IsWritten
      ['\\', 'u', '0', '0', Json.hexChar (c.toNat / 16), Json.hexChar (c.toNat % 16)] := by
  have nought : hexValue? '0' = some 0 := rfl
  have third := hexValue?_hexChar (c.toNat / 16) (by omega)
  have fourth := hexValue?_hexChar (c.toNat % 16) (Nat.mod_lt _ (by decide))
  have written := TextPiece.IsWritten.digits nought nought third fourth
  have whole : 16 * (16 * (16 * 0 + 0) + c.toNat / 16) + c.toNat % 16 = c.toNat := by
    omega
  rwa [whole] at written

/-- That unit is no half of a pair. -/
theorem content_unit {c : Char} (small : c.toNat < 32) (rest : List TextPiece) :
    TextPiece.content (.unit c.toNat :: rest) = (TextPiece.content rest).map (c :: ·) := by
  have alone : ¬ TextPiece.IsHigh c.toNat ∧ ¬ TextPiece.IsLow c.toNat := by
    simp only [TextPiece.IsHigh, TextPiece.IsLow]
    omega
  rw [TextPiece.content.eq_def]
  simp only [alone.1, alone.2, if_false, Char.ofNat_toNat]

/-- What is printed for a character is a piece that stands for it: a short escape, a unit, or the
character itself. No half of a pair is ever printed for a character, so that the pieces after it are
not touched. -/
theorem exists_piece (c : Char) : ∃ piece : TextPiece, piece.IsWritten (Json.escapeChar c) ∧
    ∀ rest, TextPiece.content (piece :: rest) = (TextPiece.content rest).map (c :: ·) := by
  have named (n : Nat) (code : c.toNat = n) : Char.ofNat n = c := by
    rw [← code, Char.ofNat_toNat]
  have short {letter : Char} (known : escapedChar? letter = some c) :
      ∃ piece : TextPiece, piece.IsWritten ['\\', letter] ∧
        ∀ rest, TextPiece.content (piece :: rest) = (TextPiece.content rest).map (c :: ·) :=
    ⟨.char c, .short known, fun _ => rfl⟩
  unfold Json.escapeChar
  split
  · next quote => exact short (by rw [quote]; rfl)
  · next notQuote =>
    split
    · next backslash => exact short (by rw [backslash]; rfl)
    · next notBackslash =>
      split
      · next code => exact short (named _ code ▸ rfl)
      · split
        · next code => exact short (named _ code ▸ rfl)
        · split
          · next feed => exact short (feed ▸ rfl)
          · split
            · next ret => exact short (ret ▸ rfl)
            · split
              · next tab => exact short (tab ▸ rfl)
              · split
                · next small => exact ⟨_, isWritten_unit small, content_unit small⟩
                · next large =>
                  exact ⟨.char c, .plain notQuote notBackslash (Nat.le_of_not_lt large),
                    fun _ => rfl⟩

/-- What is printed for characters are pieces that stand for them. -/
theorem exists_parts (cs : List Char) : ∃ parts : List (List Char × TextPiece),
    (∀ part ∈ parts, part.2.IsWritten part.1) ∧
      parts.flatMap (·.1) = cs.flatMap Json.escapeChar ∧
      TextPiece.content (parts.map (·.2)) = some cs := by
  induction cs with
  | nil => exact ⟨[], fun _ impossible => absurd impossible List.not_mem_nil, rfl, rfl⟩
  | cons c others ih =>
    obtain ⟨parts, each, printed, content⟩ := ih
    obtain ⟨piece, written, stands⟩ := exists_piece c
    refine ⟨(Json.escapeChar c, piece) :: parts, List.forall_mem_cons.mpr ⟨written, each⟩, ?_, ?_⟩
    · rw [List.flatMap_cons, List.flatMap_cons, printed]
    · rw [List.map_cons, stands, content]
      rfl

/-- What is printed for a text is a way to write it, also for one that no string can hold. The
printer writes a half that stands alone for such a text, and that makes it the same text again. -/
theorem isWritten_printText (t : JsonText) : IsWritten (Json.printText t) t := by
  cases t with
  | none =>
    refine .of [(['\\', 'u', 'd', '8', '0', '0'], .unit 0xD800)] ?_
    intro part only
    rw [List.mem_singleton.mp only]
    exact .digits (h := 13) (i := 8) (j := 0) (k := 0) rfl rfl rfl rfl
  | some s =>
    obtain ⟨parts, each, printed, content⟩ := exists_parts s.toList
    have written := IsWritten.of parts each
    rw [printed, content, Option.map_some, String.ofList_toList] at written
    exact written

end JsonText

/-! ### Values -/

namespace Json

/-- All numbers in a value are natural. -/
inductive Natural : Json → Prop where
  | null : Natural .null
  | bool (b : Bool) : Natural (.bool b)
  | number (n : Nat) : Natural (.number (.ofNat n))
  | text (t : JsonText) : Natural (.text t)
  | array {items : List Json} (all : ∀ v ∈ items, Natural v) : Natural (.array items)
  | object {members : List (JsonText × Json)} (all : ∀ m ∈ members, Natural m.2) :
      Natural (.object members)

/-- Items are printed with commas between them. -/
theorem printItems_eq (items : List Json) :
    printItems items = [','].intercalate (items.map print) := by
  induction items with
  | nil => rfl
  | cons v rest ih =>
    cases rest with
    | nil => simp [printItems, List.intercalate]
    | cons w rest => simpa [printItems, List.intercalate] using ih

/-- So are members. -/
theorem printMembers_eq (members : List (JsonText × Json)) : printMembers members =
    [','].intercalate (members.map fun m => printText m.1 ++ ':' :: m.2.print) := by
  induction members with
  | nil => rfl
  | cons m rest ih =>
    cases rest with
    | nil => simp [printMembers, List.intercalate]
    | cons n rest => simpa [printMembers, List.intercalate] using ih

/-- A member as it is printed. -/
def printed (m : JsonText × Json) : WrittenMember where
  nameText := printText m.1
  name := m.1
  valueText := m.2.print
  value := m.2

/-- What is printed for a value is a way to write it. The induction follows the value; items and
members are printed with commas between them and no blanks, which is one of the ways that the
grammar allows. -/
theorem Natural.isWritten {v : Json} (natural : v.Natural) : IsWritten v.print v := by
  induction natural with
  | null => exact .null
  | bool b =>
    cases b with
    | true => exact .yes
    | false => exact .no
  | number n =>
    have literal : print (.number (.ofNat n)) = decimalDigits n := by
      simp [print, printNumeral, Numeral.ofNat]
    rw [literal]
    exact .number (Numeral.isLiteral_decimalDigits n)
  | text t => exact .text (JsonText.isWritten_printText t)
  | @array items _ ih =>
    by_cases none' : items = []
    · subst none'
      have empty : IsWritten ('[' :: ([] ++ [']'])) (.array []) := .emptyArray rfl
      exact empty
    · have written : IsWritten _ (.array ((items.map fun v => (v.print, v)).map (·.2))) :=
        .array (by simpa using none') (by simpa using ih)
      simpa [print, printItems_eq, Function.comp_def] using written
  | @object members _ ih =>
    by_cases none' : members = []
    · subst none'
      have empty : IsWritten ('\x7b' :: ([] ++ ['\x7d'])) (.object []) := .emptyObject rfl
      exact empty
    · have named (name : JsonText) : Padded (JsonText.IsWritten · name) (printText name) :=
        ⟨[], _, [], rfl, rfl, JsonText.isWritten_printText name, (List.append_nil _).symm⟩
      have written : IsWritten _
          (.object ((members.map printed).map fun m => (m.name, m.value))) :=
        .object (by simpa using none') (List.forall_mem_map.mpr fun m _ => named m.1)
          (List.forall_mem_map.mpr ih)
      simpa [print, printMembers_eq, printed, Function.comp_def] using written

/-- Parsing a printed value gives it back, as any text does that is a way to write the value. -/
theorem parse?_render {v : Json} (natural : v.Natural) : parse? v.render = some v := by
  refine IsWritten.parse?_eq ?_
  rw [render, String.toList_ofList]
  exact natural.isWritten

end Json

end TrialRouting
