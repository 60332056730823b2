import Rowbase.Proofs.LetterCase
import Rowbase.Proofs.WrittenCommands

/-!
# Lines that insert a row

The values of an INSERT are written in many ways: in either quote, with a sign or without, in
capitals or small letters. Each is read as one literal, and the field of that literal is what
stands in the line, but for the quotes around a text and the case of a reserved word.
-/

namespace Rowbase

/-! ## Written values -/

/-- The ways to write a value, and the field that the value is stored as. -/
inductive Spelled : (written field : String) → Prop
  | quoted {quote : Char} {content : String} (either : quote = '\'' ∨ quote = '"')
      (plain : Text.Plain content) (lacks : quote ∉ content.toList) :
      Spelled (quote.toString ++ content ++ quote.toString) content
  | integer {sign digits : String} (signed : sign ∈ signs) (whole : Digits digits) :
      Spelled (sign ++ digits) (sign ++ digits)
  | decimal {sign digits places : String} (signed : sign ∈ signs) (whole : Digits digits)
      (fraction : Digits places) :
      Spelled (sign ++ (digits ++ "." ++ places)) (sign ++ (digits ++ "." ++ places))
  | boolean {word : String} {value : Bool} (same : Name.Same word (spellBoolean value)) :
      Spelled word (spellBoolean value)
  | null {word : String} (same : Name.Same word Keyword.null.spelling) :
      Spelled word Keyword.null.spelling

theorem Token.scanChars_of_same {word spelling : String} (h : Name.Same word spelling)
    (hword : isOneWord spelling.toList) {token : Token} (htoken : ofWord spelling.toList = token)
    (hname : ∀ text, token ≠ .name text) : scanChars word.toList = .ok [token] := by
  subst htoken
  exact scanChars_of_sameLetters (.of_key_eq h) hword hname

/-- A written value is read as one literal, which has its field. -/
theorem Spelled.exists_literal {written field : String} (h : Spelled written field) :
    ∃ literal : Literal, literal.field = field ∧
      Token.scanChars written.toList = .ok [literal.token] := by
  cases h with
  | quoted either plain lacks =>
      refine ⟨.text field, rfl, ?_⟩
      simpa [Literal.token] using (Token.Lexeme.quoted either plain lacks).scanChars_eq
  | integer signed whole =>
      exact ⟨.integer _, rfl, (Token.Lexeme.integer signed whole).scanChars_eq⟩
  | decimal signed whole fraction =>
      exact ⟨.decimal _, rfl, (Token.Lexeme.decimal signed whole fraction).scanChars_eq⟩
  | @boolean word value same =>
      refine ⟨.boolean value, rfl, Token.scanChars_of_same same ?_ ?_ ?_⟩
      · cases value <;> decide
      · cases value <;> decide
      · simp [Literal.token]
  | null same =>
      refine ⟨.null, rfl, Token.scanChars_of_same same ?_ ?_ ?_⟩
      · decide
      · decide
      · simp [Literal.token]

/-! ## Lines -/

/-- The line that inserts written values into a table. -/
def insertLine (table : String) (written : List String) : String :=
  "INSERT INTO " ++ table ++ " VALUES (" ++ String.intercalate ", " written ++ ");"

namespace Token

/-- Written values with commas between them, and what stands behind them. -/
theorem scanChars_intercalate {written : List String} {items : List (List Token)}
    (h : List.Forall₂ (fun text tokens => scanChars text.toList = .ok tokens) written items)
    {after : List Char} (hafter : Bounded after) {tokens : List Token}
    (htokens : scanChars after = .ok tokens) (hne : written ≠ []) :
    scanChars ((String.intercalate ", " written).toList ++ after) =
      .ok (Command.commaSeparated items ++ tokens) := by
  induction h with
  | nil => exact absurd rfl hne
  | @cons text item written items htext hrest ih =>
      cases hrest with
      | nil =>
          rw [String.intercalate_singleton, scanChars_append hafter htext, htokens]
          simp [Command.commaSeparated, Except.map]
      | @cons next nextItem others otherItems hnext hothers =>
          have hcomma (rest : List Char) : Bounded (',' :: rest) :=
            bounded_cons (by decide) (by decide) (by decide) _
          have hchars : (String.intercalate ", " (text :: next :: others)).toList ++ after =
              text.toList ++ ',' :: ' ' ::
                ((String.intercalate ", " (next :: others)).toList ++ after) := by
            rw [String.intercalate_cons_of_ne_nil (by simp)]
            simp
          rw [hchars, scanChars_append (hcomma _) htext, scanChars_single rfl (by decide),
            scanChars_cons_blank (by decide), ih (by simp)]
          simp [Command.commaSeparated, Except.map]

end Token

theorem exists_literals {written fields : List String} (h : List.Forall₂ Spelled written fields) :
    ∃ literals : List Literal, literals.map Literal.field = fields ∧
      List.Forall₂ (fun text tokens => Token.scanChars text.toList = .ok tokens) written
        (literals.map fun literal => [literal.token]) := by
  induction h with
  | nil => exact ⟨[], rfl, .nil⟩
  | cons hspelled _ ih =>
      obtain ⟨literal, hfield, hscan⟩ := hspelled.exists_literal
      obtain ⟨literals, hfields, hscans⟩ := ih
      exact ⟨literal :: literals, by rw [List.map_cons, hfield, hfields], .cons hscan hscans⟩

theorem scan_insertLine {table : String} (htable : Token.Named table) {written : List String}
    {literals : List Literal}
    (hscans : List.Forall₂ (fun text tokens => Token.scanChars text.toList = .ok tokens) written
      (literals.map fun literal => [literal.token])) (hne : written ≠ []) :
    Token.scan (insertLine table written) =
      .ok (Command.change (.insert table literals)).tokens := by
  have hchars : (insertLine table written).toList = Keyword.insert.spelling.toList ++ ' ' ::
      (Keyword.into.spelling.toList ++ ' ' :: (table.toList ++ ' ' ::
        (Keyword.values.spelling.toList ++ ' ' :: '(' ::
          ((String.intercalate ", " written).toList ++ [')', ';'])))) := by
    simp [insertLine, Keyword.spelling]
  have hkeyword (word : Keyword) :
      Token.scanChars word.spelling.toList = .ok [.keyword word] :=
    (Token.lexeme_of_keyword word).scanChars_eq
  have hend : Token.scanChars [')', ';'] = .ok [.symbol .closeParen, .symbol .semicolon] := by cbv
  have hbounded : Token.Bounded [')', ';'] :=
    Token.bounded_cons (by decide) (by decide) (by decide) _
  rw [Token.scan, hchars, Token.scanChars_append_space (hkeyword .insert),
    Token.scanChars_append_space (hkeyword .into),
    Token.scanChars_append_space htable.scanChars_eq,
    Token.scanChars_append_space (hkeyword .values), Token.scanChars_single rfl (by decide),
    Token.scanChars_intercalate hscans hbounded hend hne]
  simp [Except.map, Command.tokens, Command.changeTokens, Command.inParens]

/-- A line that inserts written values is read as the insertion of literals with their fields. -/
theorem ofLine_insertLine {table : String} (htable : Token.Named table)
    {written fields : List String} (hspelled : List.Forall₂ Spelled written fields)
    (hne : written ≠ []) :
    ∃ literals : List Literal, literals.map Literal.field = fields ∧
      Command.ofLine (insertLine table written) = .ok (.change (.insert table literals)) := by
  obtain ⟨literals, hfields, hscans⟩ := exists_literals hspelled
  have hlisted : (Command.change (.insert table literals)).Listed := by
    rintro rfl
    exact hne (List.forall₂_nil_right_iff.mp hscans)
  have hscan := scan_insertLine htable hscans hne
  have hread := Command.read_eq_ok_iff.mpr (Command.sentence_tokens hlisted)
  exact ⟨literals, hfields, by simp only [Command.ofLine, hscan, hread]⟩

end Rowbase
