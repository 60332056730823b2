import Rowbase.Literal
import Rowbase.Proofs.DecimalValues
import Rowbase.Proofs.LexicalGrammar

/-!
# Numerals

A numeral is a run of digits, with a sign in front or without, and maybe with places behind a
point. The number that it writes is read from the text alone. Every numeral of a line is one, and a
field that is one is read as the finite number nearest to what it writes, if there is such a number.
-/

namespace Rowbase

/-- The whole number that digits write. -/
def wholeValue (digits : String) : ℕ :=
  Nat.ofDigitChars 10 digits.toList 0

/-- A number behind its sign. -/
def withSign (sign : String) (x : ℚ) : ℚ :=
  if sign = "-" then -x else x

/-- A text that writes a number, and the number. -/
inductive Numeral : (text : String) → (x : ℚ) → Prop
  | integer {sign digits : String} (signed : sign ∈ signs) (whole : Digits digits) :
      Numeral (sign ++ digits) (withSign sign (wholeValue digits))
  | decimal {sign digits places : String} (signed : sign ∈ signs) (whole : Digits digits)
      (fraction : Digits places) :
      Numeral (sign ++ (digits ++ "." ++ places))
        (withSign sign (wholeValue digits + wholeValue places / 10 ^ places.length))

/-! ## The value that is read -/

namespace Decimal

theorem ofDigits_toList (digits : String) : ofDigits digits.toList = wholeValue digits := by
  rw [ofDigits, wholeValue, Nat.ofDigitChars_eq_foldl]

theorem ofDigits_append (digits places : String) :
    ofDigits (digits.toList ++ places.toList) =
      10 ^ places.length * wholeValue digits + wholeValue places := by
  rw [ofDigits, ← Nat.ofDigitChars_eq_foldl, Nat.ofDigitChars_append,
    Nat.ofDigitChars_eq_ofDigitChars_zero, String.length_toList, wholeValue, wholeValue]

/-- The sign in front of a digit. -/
theorem takeSign_append {sign : String} (hsign : sign ∈ signs) {unsigned : List Char}
    (hdigit : unsigned.head?.any Char.isDigit) :
    takeSign (sign.toList ++ unsigned) = (decide (sign = "-"), unsigned) := by
  fin_cases hsign
  · cases unsigned with
    | nil => rfl
    | cons c rest =>
        have hc : c.isDigit := hdigit
        have hminus : c ≠ '-' := by
          rintro rfl
          exact absurd hc (by decide)
        have hplus : c ≠ '+' := by
          rintro rfl
          exact absurd hc (by decide)
        simp [takeSign, hminus, hplus]
  · rfl
  · rfl

/-- What is read behind a sign and digits. -/
theorem read?_append {sign digits : String} (hsign : sign ∈ signs) (hdigits : Digits digits)
    {after : List Char} (hafter : Token.Stops Char.isDigit after) :
    read? (sign.toList ++ (digits.toList ++ after)) =
      (readExponent? (takeFraction after).2).map fun exponent =>
        { negative := decide (sign = "-")
          digits := ofDigits (digits.toList ++ (takeFraction after).1)
          exponent := exponent - (takeFraction after).1.length } := by
  have hsome : digits.toList ≠ [] := by
    simpa using hdigits.some
  simp only [read?, takeSign_append hsign (hdigits.any_head? after),
    hafter.takeWhile_append hdigits.all, hafter.dropWhile_append hdigits.all]
  simp [hsome]

end Decimal

/-- A text without blanks has none around it. -/
theorem Text.trim_eq_self {text : List Char} (h : ∀ c ∈ text, Unicode.isBlank c = false) :
    Text.trim text = text := by
  have hstart : Token.Stops Unicode.isBlank text :=
    fun c hc => h c (List.mem_of_head? hc)
  have hend : Token.Stops Unicode.isBlank text.reverse :=
    fun c hc => h c (List.mem_reverse.mp (List.mem_of_head? hc))
  rw [Text.trim, hstart.dropWhile_eq_self, hend.dropWhile_eq_self, List.reverse_reverse]

namespace Numeral

variable {text : String} {x : ℚ}

/-- The value that is read is the number that the numeral writes. -/
theorem exists_read? (h : Numeral text x) :
    ∃ d, Decimal.read? text.toList = some d ∧ d.value = x := by
  cases h with
  | @integer sign digits signed whole =>
      have hread := Decimal.read?_append signed whole (Token.stops_nil _)
      rw [List.append_nil, ← String.toList_append] at hread
      refine ⟨_, hread, ?_⟩
      simp [Decimal.value, Decimal.magnitude, Decimal.takeFraction, Decimal.ofDigits_toList,
        withSign]
  | @decimal sign digits places signed whole fraction =>
      have hpoint : Token.Stops Char.isDigit ('.' :: places.toList) := by
        intro c hc
        cases hc
        decide
      have hchars : (sign ++ (digits ++ "." ++ places)).toList =
          sign.toList ++ (digits.toList ++ '.' :: places.toList) := by
        simp
      have hfraction : Decimal.takeFraction ('.' :: places.toList) = (places.toList, []) := by
        rw [Decimal.takeFraction, List.takeWhile_eq_self_iff.mpr fraction.all,
          List.dropWhile_eq_nil_iff.mpr fraction.all]
      have hread := Decimal.read?_append signed whole hpoint
      rw [hfraction, Decimal.ofDigits_append, ← hchars] at hread
      refine ⟨_, hread, ?_⟩
      have hten : (10 : ℚ) ^ places.length ≠ 0 := by positivity
      have hmagnitude : ((10 ^ places.length * wholeValue digits + wholeValue places : ℕ) : ℚ) *
          10 ^ (-(places.length : ℤ)) =
            wholeValue digits + wholeValue places / 10 ^ places.length := by
        rw [zpow_neg, zpow_natCast]
        push_cast
        field_simp
      simp only [Decimal.value, Decimal.magnitude, String.length_toList, zero_sub, hmagnitude,
        withSign, decide_eq_true_eq]

theorem isBlank_eq_false (h : Numeral text x) :
    ∀ c ∈ text.toList, Unicode.isBlank c = false := by
  have hsign {sign : String} (signed : sign ∈ signs) :
      ∀ c ∈ sign.toList, Unicode.isBlank c = false := by
    fin_cases signed <;> simp <;> decide
  have hdigits {digits : String} (all : Digits digits) :
      ∀ c ∈ digits.toList, Unicode.isBlank c = false :=
    fun c hc => Unicode.isBlank_of_isDigit (all.all c hc)
  have hpoint : ∀ c ∈ ".".toList, Unicode.isBlank c = false := by
    simp
    decide
  cases h with
  | integer signed whole =>
      rw [String.toList_append]
      exact List.forall_mem_append.mpr ⟨hsign signed, hdigits whole⟩
  | decimal signed whole fraction =>
      rw [String.toList_append, String.toList_append, String.toList_append]
      simp only [List.forall_mem_append]
      exact ⟨hsign signed, ⟨hdigits whole, hpoint⟩, hdigits fraction⟩

theorem fieldNumber?_eq (h : Numeral text x) :
    ∃ d : Decimal, fieldNumber? text = d.toBinary64? ∧ d.value = x := by
  obtain ⟨d, hread, hvalue⟩ := h.exists_read?
  refine ⟨d, ?_, hvalue⟩
  rw [fieldNumber?, Text.trim_eq_self h.isBlank_eq_false, hread, Option.bind_some]

/-- A numeral is a finite number exactly if what it writes is below the bound. -/
theorem isSome_fieldNumber?_iff (h : Numeral text x) :
    (fieldNumber? text).isSome ↔ |x| < Binary64.bound := by
  obtain ⟨d, hnumber, rfl⟩ := h.fieldNumber?_eq
  rw [hnumber, Decimal.isSome_toBinary64?_iff]

/-- A numeral is read as the number nearest to what it writes. -/
theorem value_of_fieldNumber? (h : Numeral text x) {number : Binary64}
    (hnumber : fieldNumber? text = some number) : number.value = Binary64.nearestCount x := by
  obtain ⟨d, heq, rfl⟩ := h.fieldNumber?_eq
  exact Decimal.value_of_toBinary64? (heq.symm.trans hnumber)

end Numeral

/-! ## The numerals of a line -/

namespace Token

open Unicode

/-- The text of a number writes a number. -/
def Numeric : Token → Prop
  | .integer numeral | .decimal numeral => ∃ x, Numeral numeral x
  | .name _ | .text _ | .keyword _ | .symbol _ | .boolean _ => True

theorem Lexeme.numeric {lexeme : List Char} {token : Token} (h : Lexeme lexeme token) :
    token.Numeric := by
  cases h with
  | integer signed whole => exact ⟨_, .integer signed whole⟩
  | decimal signed whole fraction => exact ⟨_, .decimal signed whole fraction⟩
  | word one said =>
      rw [← said]
      exact ofWord_induction lexeme (fun _ => trivial) (fun _ => trivial) fun _ => trivial
  | symbol => trivial
  | quoted => trivial
  | numbered => trivial

/-- Every number of a line writes a number. -/
theorem numeric_of_scanChars {line : List Char} {tokens : List Token}
    (h : scanChars line = .ok tokens) : ∀ token ∈ tokens, token.Numeric := by
  intro token htoken
  obtain ⟨lexeme, hlexeme⟩ := exists_lexeme_of_scanChars h token htoken
  exact hlexeme.numeric

end Token

end Rowbase
