import Rowbase.Error
import Rowbase.Proofs.Boundaries
import Rowbase.Proofs.LexicalGrammar
import Rowbase.Proofs.Sentences

/-!
# Written commands read back

A command that is written token by token, with a blank behind each, is read as the same command.
Its names and numerals must be ones that are read as such, its texts must leave one kind of quote
to put around them, and a list that the grammar does not let be empty must not be. Its condition
can be any tree: what is joined on the right is written in parentheses.
-/

namespace Rowbase

namespace Token

/-! ## Tokens -/

/-- What a token must hold to be found again where it is written. -/
def Writable : Token → Prop
  | .name spelling => scan spelling = .ok [.name spelling]
  | .integer numeral => scan numeral = .ok [.integer numeral]
  | .decimal numeral => scan numeral = .ok [.decimal numeral]
  | .text content => Text.Plain content ∧ ¬('\'' ∈ content.toList ∧ '"' ∈ content.toList)
  | .keyword _ | .symbol _ | .boolean _ => True

theorem quoteFor_cases (content : String) :
    quoteFor content = '\'' ∨ quoteFor content = '"' := by
  unfold quoteFor
  split
  · exact .inr rfl
  · exact .inl rfl

theorem quoteFor_notMem {content : String}
    (h : ¬('\'' ∈ content.toList ∧ '"' ∈ content.toList)) :
    quoteFor content ∉ content.toList := by
  unfold quoteFor
  split
  next hsingle => exact fun hdouble => h ⟨hsingle, hdouble⟩
  next hsingle => exact hsingle

/-- Every token is found again where it is written. -/
theorem scanChars_written {token : Token} (h : token.Writable) :
    scanChars token.written = .ok [token] := by
  cases token with
  | keyword word => exact (lexeme_of_keyword word).scanChars_eq
  | symbol sign => exact (Lexeme.symbol sign).scanChars_eq
  | boolean value => exact (lexeme_of_boolean value).scanChars_eq
  | name spelling => exact h
  | integer numeral => exact h
  | decimal numeral => exact h
  | text content => exact scanChars_quoted (quoteFor_cases content) h.1 (quoteFor_notMem h.2)

/-- A written line has the tokens that it was written from. -/
theorem scan_write {tokens : List Token} (h : ∀ token ∈ tokens, token.Writable) :
    scan (write tokens) = .ok tokens := by
  rw [scan, write, String.toList_ofList]
  induction tokens with
  | nil => exact scanChars_eq_nil rfl
  | cons token rest ih =>
      obtain ⟨htoken, hrest⟩ := List.forall_mem_cons.mp h
      have hbounded : Bounded (' ' :: line rest) :=
        bounded_cons (by decide) (by decide) (by decide) _
      rw [line, scanChars_append hbounded (scanChars_written htoken),
        scanChars_cons_blank (by decide), ih hrest]
      rfl

end Token

/-! ## Phrases -/

namespace Grammar

variable {α : Type} {Item : List Token → α → Prop}

theorem commaList_commaSeparated {write : α → List Token}
    (hitem : ∀ value, Item (write value) value) {values : List α} (h : values ≠ []) :
    CommaList Item (Command.commaSeparated (values.map write)) values := by
  induction values with
  | nil => exact absurd rfl h
  | cons value rest ih =>
      cases rest with
      | nil => simpa [Command.commaSeparated] using CommaList.single (hitem value)
      | cons next others =>
          simpa [Command.commaSeparated] using CommaList.more (hitem value) (ih (by simp))

theorem commaList_names {columns : List String} (h : columns ≠ []) :
    CommaList IsName (Command.names columns) columns := by
  have hname : ∀ column, IsName [.name column] column := fun _ => rfl
  exact commaList_commaSeparated hname h

/-- A condition is a term in parentheses if it is joined, and without if it is not. -/
theorem isCondition_term {condition : Condition}
    (h : IsCondition .condition condition.tokens condition) :
    IsCondition .term (Condition.parenthesized condition.isJoined condition.tokens)
      condition := by
  cases condition with
  | comparison column comparator literal => exact .comparison column comparator literal
  | and left right => exact .grouped h
  | or left right => exact .grouped h

/-- Every tree of comparisons is what its own tokens say. -/
theorem isCondition_tokens (condition : Condition) :
    IsCondition .condition condition.tokens condition := by
  induction condition with
  | comparison column comparator literal => exact .single (.comparison column comparator literal)
  | and left right ihleft ihright => exact .and ihleft (isCondition_term ihright)
  | or left right ihleft ihright => exact .or ihleft (isCondition_term ihright)

end Grammar

/-! ## Commands -/

namespace Command

open Grammar

/-- No list is empty that the grammar does not let be empty. -/
def Listed : Command → Prop
  | .change (.insert _ values) => values ≠ []
  | .change (.update _ assignments _) => assignments ≠ []
  | .query (.select selection) => selection.columns ≠ some []
  | _ => True

/-- A command that has a written form. -/
structure Writable (command : Command) : Prop where
  listed : command.Listed
  tokens : ∀ token ∈ command.tokens, token.Writable

theorem body_changeTokens {change : Change} (h : (Command.change change).Listed) :
    Body (changeTokens change) (.change change) := by
  cases change with
  | createTable table columns =>
      cases columns with
      | nil => exact .createTable table .none
      | cons column rest => exact .createTable table (.columns (commaList_names (by simp)))
  | dropTable table => exact .dropTable table
  | addColumn table column => exact .addColumn table column
  | dropColumn table column => exact .dropColumn table column
  | insert table values =>
      have hvalue : ∀ value : Literal, IsLiteral [value.token] value := fun _ => rfl
      exact .insert table (commaList_commaSeparated hvalue h)
  | update table assignments condition =>
      have hassignment : ∀ assignment, IsAssignment (assignmentTokens assignment) assignment :=
        fun _ => rfl
      exact .update table (commaList_commaSeparated hassignment h) (isCondition_tokens condition)
  | delete table condition => exact .delete table (isCondition_tokens condition)

theorem body_queryTokens {query : Query} (h : (Command.query query).Listed) :
    Body (queryTokens query) (.query query) := by
  cases query with
  | select selection =>
      obtain ⟨table, columns, condition⟩ := selection
      have hwanted : IsWanted ((columns.map names).getD [.symbol .star]) columns := by
        cases columns with
        | none => exact .all
        | some columns => exact .columns (commaList_names fun hnil => h (congrArg some hnil))
      cases condition with
      | none => exact .select table hwanted .none
      | some condition => exact .select table hwanted (.condition (isCondition_tokens condition))
  | join join =>
      exact .join join.leftTable join.rightTable join.leftColumn join.rightColumn

/-- The tokens of a command are a sentence that says this command. -/
theorem sentence_tokens {command : Command} (h : command.Listed) :
    Sentence command.tokens command := by
  cases command with
  | use database => exact ⟨_, .use database, rfl⟩
  | createDatabase database => exact ⟨_, .createDatabase database, rfl⟩
  | dropDatabase database => exact ⟨_, .dropDatabase database, rfl⟩
  | change change => exact ⟨_, body_changeTokens h, rfl⟩
  | query query => exact ⟨_, body_queryTokens h, rfl⟩

/-- Every command that has a written form is read back from it. -/
theorem ofLine_write {command : Command} (h : command.Writable) :
    Command.ofLine command.write = .ok command := by
  have hscan : Token.scan command.write = .ok command.tokens := Token.scan_write h.tokens
  have hread : Command.read command.tokens = .ok command :=
    read_eq_ok_iff.mpr (sentence_tokens h.listed)
  simp only [Command.ofLine, hscan, hread]

/-- `UPDATE 2nd SET a = "it's" , b = -1.50 WHERE a > +7 AND ( a LIKE '"' OR b == NULL ) ;` -/
def sampleUpdate : Command :=
  .change (.update "2nd"
    [{ column := "a", literal := .text "it's" }, { column := "b", literal := .decimal "-1.50" }]
    (.and (.comparison "a" .greater (.integer "+7"))
      (.or (.comparison "a" .like (.text "\"")) (.comparison "b" .equal .null))))

theorem ofLine_write_sampleUpdate :
    sampleUpdate.Writable ∧ Command.ofLine sampleUpdate.write = .ok sampleUpdate := by
  have hwritable : sampleUpdate.Writable := by
    have htokens : sampleUpdate.tokens =
        [.keyword .update, .name "2nd", .keyword .set, .name "a", .symbol .assign, .text "it's",
          .symbol .comma, .name "b", .symbol .assign, .decimal "-1.50", .keyword .«where»,
          .name "a", .symbol .greater, .integer "+7", .keyword .and, .symbol .openParen,
          .name "a", .keyword .like, .text "\"", .keyword .or, .name "b", .symbol .equal,
          .keyword .null, .symbol .closeParen, .symbol .semicolon] := rfl
    have ha : (Token.name "a").Writable := by
      change Token.scan "a" = .ok [.name "a"]
      cbv
    have hb : (Token.name "b").Writable := by
      change Token.scan "b" = .ok [.name "b"]
      cbv
    have htable : (Token.name "2nd").Writable := by
      change Token.scan "2nd" = .ok [.name "2nd"]
      cbv
    have hdecimal : (Token.decimal "-1.50").Writable := by
      change Token.scan "-1.50" = .ok [.decimal "-1.50"]
      cbv
    have hinteger : (Token.integer "+7").Writable := by
      change Token.scan "+7" = .ok [.integer "+7"]
      cbv
    have hsingle : (Token.text "it's").Writable := ⟨Text.plain_of_all (by decide), by decide⟩
    have hdouble : (Token.text "\"").Writable := ⟨Text.plain_of_all (by decide), by decide⟩
    have hkeyword : ∀ word, (Token.keyword word).Writable := fun _ => trivial
    have hsymbol : ∀ sign, (Token.symbol sign).Writable := fun _ => trivial
    refine ⟨List.cons_ne_nil _ _, ?_⟩
    rw [htokens]
    simp [ha, hb, htable, hdecimal, hinteger, hsingle, hdouble, hkeyword, hsymbol]
  exact ⟨hwritable, ofLine_write hwritable⟩

end Command

end Rowbase
