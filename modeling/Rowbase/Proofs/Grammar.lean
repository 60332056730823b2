import Mathlib
import Rowbase.Command.Write

/-!
# The grammar of commands

Which lists of tokens say a command, and which command each of them says, apart from how they
are read: one constructor for every form of a command. A condition is joined from the left,
whichever words join it, and only parentheses group. In a sentence of the grammar the
parentheses are balanced, and the semicolon stands at the end and nowhere else.
-/

namespace Rowbase.Grammar

variable {α : Type}

/-- `<item> {, <item>}` -/
inductive CommaList (Item : List Token → α → Prop) : List Token → List α → Prop where
  | single {tokens : List Token} {value : α} (item : Item tokens value) :
      CommaList Item tokens [value]
  | more {first rest : List Token} {value : α} {values : List α} (item : Item first value)
      (others : CommaList Item rest values) :
      CommaList Item (first ++ .symbol .comma :: rest) (value :: values)

/-- `<name>` -/
def IsName (tokens : List Token) (name : String) : Prop :=
  tokens = [.name name]

/-- `<value>` -/
def IsLiteral (tokens : List Token) (literal : Literal) : Prop :=
  tokens = [literal.token]

/-- `<attr> = <value>` -/
def IsAssignment (tokens : List Token) (assignment : Assignment) : Prop :=
  tokens = [.name assignment.column, .symbol .assign, assignment.literal.token]

/-- The two kinds of phrases that stand for conditions. -/
inductive Part where
  | term | condition
  deriving DecidableEq

/-- `<cond> := <term> {(AND | OR) <term>}`, joined from the left, and
`<term> := ( <cond> ) | <attr> <comparator> <value>` -/
inductive IsCondition : Part → List Token → Condition → Prop where
  | comparison (column : String) (comparator : Comparator) (literal : Literal) :
      IsCondition .term [.name column, comparator.token, literal.token]
        (.comparison column comparator literal)
  | grouped {tokens : List Token} {condition : Condition}
      (inner : IsCondition .condition tokens condition) :
      IsCondition .term (Command.inParens tokens) condition
  | single {tokens : List Token} {condition : Condition}
      (term : IsCondition .term tokens condition) :
      IsCondition .condition tokens condition
  | and {first rest : List Token} {left right : Condition}
      (before : IsCondition .condition first left) (term : IsCondition .term rest right) :
      IsCondition .condition (first ++ .keyword .and :: rest) (.and left right)
  | or {first rest : List Token} {left right : Condition}
      (before : IsCondition .condition first left) (term : IsCondition .term rest right) :
      IsCondition .condition (first ++ .keyword .or :: rest) (.or left right)

/-- `* | <attr> {, <attr>}` -/
inductive IsWanted : List Token → Option (List String) → Prop where
  | all : IsWanted [.symbol .star] none
  | columns {tokens : List Token} {columns : List String}
      (list : CommaList IsName tokens columns) : IsWanted tokens (some columns)

/-- `[WHERE <cond>]` -/
inductive IsFilter : List Token → Option Condition → Prop where
  | none : IsFilter [] none
  | condition {tokens : List Token} {condition : Condition}
      (filter : IsCondition .condition tokens condition) :
      IsFilter (.keyword .«where» :: tokens) (some condition)

/-- `[( <attr> {, <attr>} )]` -/
inductive IsColumns : List Token → List String → Prop where
  | none : IsColumns [] []
  | columns {tokens : List Token} {columns : List String}
      (list : CommaList IsName tokens columns) : IsColumns (Command.inParens tokens) columns

/-- A command without its semicolon. -/
inductive Body : List Token → Command → Prop where
  | use (database : String) : Body [.keyword .use, .name database] (.use database)
  | createDatabase (database : String) :
      Body [.keyword .create, .keyword .database, .name database] (.createDatabase database)
  | createTable {tokens : List Token} {columns : List String} (table : String)
      (list : IsColumns tokens columns) :
      Body ([.keyword .create, .keyword .table, .name table] ++ tokens)
        (.change (.createTable table columns))
  | dropDatabase (database : String) :
      Body [.keyword .drop, .keyword .database, .name database] (.dropDatabase database)
  | dropTable (table : String) :
      Body [.keyword .drop, .keyword .table, .name table] (.change (.dropTable table))
  | addColumn (table column : String) :
      Body [.keyword .alter, .keyword .table, .name table, .keyword .add, .name column]
        (.change (.addColumn table column))
  | dropColumn (table column : String) :
      Body [.keyword .alter, .keyword .table, .name table, .keyword .drop, .name column]
        (.change (.dropColumn table column))
  | insert {tokens : List Token} {values : List Literal} (table : String)
      (list : CommaList IsLiteral tokens values) :
      Body ([.keyword .insert, .keyword .into, .name table, .keyword .values]
        ++ Command.inParens tokens) (.change (.insert table values))
  | select {wanted filter : List Token} {columns : Option (List String)}
      {condition : Option Condition} (table : String) (list : IsWanted wanted columns)
      (filtered : IsFilter filter condition) :
      Body (.keyword .select :: wanted ++ [.keyword .«from», .name table] ++ filter)
        (.query (.select { table, columns, condition }))
  | update {list filter : List Token} {assignments : List Assignment} {condition : Condition}
      (table : String) (assigned : CommaList IsAssignment list assignments)
      (filtered : IsCondition .condition filter condition) :
      Body ([.keyword .update, .name table, .keyword .set] ++ list ++ .keyword .«where» :: filter)
        (.change (.update table assignments condition))
  | delete {filter : List Token} {condition : Condition} (table : String)
      (filtered : IsCondition .condition filter condition) :
      Body ([.keyword .delete, .keyword .«from», .name table, .keyword .«where»] ++ filter)
        (.change (.delete table condition))
  | join (leftTable rightTable leftColumn rightColumn : String) :
      Body [.keyword .join, .name leftTable, .keyword .and, .name rightTable, .keyword .on,
        .name leftColumn, .keyword .and, .name rightColumn]
        (.query (.join { leftTable, rightTable, leftColumn, rightColumn }))

/-- `<command> ;` -/
def Sentence (tokens : List Token) (command : Command) : Prop :=
  ∃ body, Body body command ∧ tokens = body ++ [.symbol .semicolon]

/-! ## Parentheses and semicolons -/

/-- Every parenthesis that is closed has been opened before it, and all that are opened are
closed. -/
structure Balanced (tokens : List Token) : Prop where
  count_eq : tokens.count (.symbol .closeParen) = tokens.count (.symbol .openParen)
  count_le : ∀ n, (tokens.take n).count (.symbol .closeParen) ≤
    (tokens.take n).count (.symbol .openParen)

/-- What can stand before the semicolon of a sentence. -/
structure Inside (tokens : List Token) : Prop where
  balanced : Balanced tokens
  no_semicolon : .symbol .semicolon ∉ tokens

/-- A token that neither groups nor ends anything. -/
def IsWord (token : Token) : Prop :=
  token ≠ .symbol .openParen ∧ token ≠ .symbol .closeParen ∧ token ≠ .symbol .semicolon

variable {tokens first rest : List Token}

theorem Balanced.append (hfirst : Balanced first) (hrest : Balanced rest) :
    Balanced (first ++ rest) := by
  refine ⟨?_, fun n => ?_⟩
  · rw [List.count_append, List.count_append, hfirst.count_eq, hrest.count_eq]
  · rw [List.take_append, List.count_append, List.count_append]
    exact Nat.add_le_add (hfirst.count_le n) (hrest.count_le _)

theorem Inside.append (hfirst : Inside first) (hrest : Inside rest) : Inside (first ++ rest) := by
  refine ⟨hfirst.balanced.append hrest.balanced, ?_⟩
  rw [List.mem_append, not_or]
  exact ⟨hfirst.no_semicolon, hrest.no_semicolon⟩

theorem inside_of_isWord (h : ∀ token ∈ tokens, IsWord token) : Inside tokens := by
  have hcount : ∀ part : List Token, part ⊆ tokens →
      part.count (.symbol .closeParen) = 0 ∧ part.count (.symbol .openParen) = 0 := by
    intro part hpart
    rw [List.count_eq_zero, List.count_eq_zero]
    exact ⟨fun hmem => (h _ (hpart hmem)).2.1 rfl, fun hmem => (h _ (hpart hmem)).1 rfl⟩
  refine ⟨⟨?_, fun n => ?_⟩, fun hmem => (h _ hmem).2.2 rfl⟩
  · rw [(hcount tokens (List.Subset.refl _)).1, (hcount tokens (List.Subset.refl _)).2]
  · rw [(hcount _ (List.take_subset n tokens)).1]
    exact Nat.zero_le _

theorem Inside.cons {token : Token} (hword : IsWord token) (h : Inside tokens) :
    Inside (token :: tokens) := by
  have htoken : Inside [token] := inside_of_isWord (by simpa using hword)
  exact htoken.append h

theorem Inside.inParens (h : Inside tokens) : Inside (Command.inParens tokens) := by
  refine ⟨⟨?_, fun n => ?_⟩, ?_⟩
  · simp [Command.inParens, h.balanced.count_eq]
  · cases n with
    | zero => simp
    | succ n =>
        have hlast : (List.take (n - tokens.length) [Token.symbol .closeParen]).count
            (.symbol .closeParen) ≤ 1 :=
          (List.take_sublist _ _).count_le _
        have htokens := h.balanced.count_le n
        simp [Command.inParens, List.take_append]
        omega
  · simp [Command.inParens, h.no_semicolon]

/-! ## Phrases are inside sentences -/

theorem isWord_name (text : String) : IsWord (.name text) := by
  simp [IsWord]

theorem isWord_keyword (word : Keyword) : IsWord (.keyword word) := by
  simp [IsWord]

theorem isWord_literal (literal : Literal) : IsWord literal.token := by
  cases literal <;> simp [IsWord, Literal.token]

theorem isWord_comparator (comparator : Comparator) : IsWord comparator.token := by
  cases comparator <;> simp [IsWord, Comparator.token]

theorem CommaList.inside {Item : List Token → α → Prop} {values : List α}
    (hitem : ∀ phrase value, Item phrase value → Inside phrase)
    (h : CommaList Item tokens values) : Inside tokens := by
  induction h with
  | single item => exact hitem _ _ item
  | more item _ ih => exact (hitem _ _ item).append (ih.cons (by simp [IsWord]))

theorem inside_of_isName {name : String} (h : IsName tokens name) : Inside tokens := by
  obtain rfl := h
  exact inside_of_isWord (by simp [isWord_name])

theorem inside_of_isLiteral {literal : Literal} (h : IsLiteral tokens literal) :
    Inside tokens := by
  obtain rfl := h
  exact inside_of_isWord (by simp [isWord_literal])

theorem inside_of_isAssignment {assignment : Assignment} (h : IsAssignment tokens assignment) :
    Inside tokens := by
  obtain rfl := h
  have hassign : IsWord (.symbol .assign) := by simp [IsWord]
  apply inside_of_isWord
  simp [isWord_name, isWord_literal, hassign]

theorem IsCondition.inside {part : Part} {condition : Condition}
    (h : IsCondition part tokens condition) : Inside tokens := by
  induction h with
  | comparison column comparator literal =>
      apply inside_of_isWord
      simp [isWord_name, isWord_comparator, isWord_literal]
  | grouped _ ih => exact ih.inParens
  | single _ ih => exact ih
  | and _ _ ihleft ihright => exact ihleft.append (ihright.cons (isWord_keyword _))
  | or _ _ ihleft ihright => exact ihleft.append (ihright.cons (isWord_keyword _))

theorem IsWanted.inside {columns : Option (List String)} (h : IsWanted tokens columns) :
    Inside tokens := by
  cases h with
  | all => exact inside_of_isWord (by simp [IsWord])
  | columns list => exact list.inside fun _ _ => inside_of_isName

theorem IsFilter.inside {filter : Option Condition} (h : IsFilter tokens filter) :
    Inside tokens := by
  cases h with
  | none => exact inside_of_isWord (by simp)
  | condition filter => exact filter.inside.cons (isWord_keyword _)

theorem IsColumns.inside {columns : List String} (h : IsColumns tokens columns) :
    Inside tokens := by
  cases h with
  | none => exact inside_of_isWord (by simp)
  | columns list => exact (list.inside fun _ _ => inside_of_isName).inParens

theorem Body.inside {command : Command} (h : Body tokens command) : Inside tokens := by
  have hwords : ∀ words : List Token, (∀ token ∈ words, IsWord token) → Inside words :=
    fun _ => inside_of_isWord
  cases h with
  | createTable table list =>
      exact (hwords _ (by simp [isWord_name, isWord_keyword])).append list.inside
  | insert table list =>
      have hlist := (list.inside fun _ _ => inside_of_isLiteral).inParens
      exact (hwords _ (by simp [isWord_name, isWord_keyword])).append hlist
  | select table list filtered =>
      have hwanted := list.inside.cons (isWord_keyword .select)
      have htable := hwanted.append (hwords [.keyword .«from», .name table]
        (by simp [isWord_name, isWord_keyword]))
      exact htable.append filtered.inside
  | update table assigned filtered =>
      have hassigned := (hwords [.keyword .update, .name table, .keyword .set]
        (by simp [isWord_name, isWord_keyword])).append
        (assigned.inside fun _ _ => inside_of_isAssignment)
      exact hassigned.append (filtered.inside.cons (isWord_keyword _))
  | delete table filtered =>
      exact (hwords _ (by simp [isWord_name, isWord_keyword])).append filtered.inside
  | use | createDatabase | dropDatabase | dropTable | addColumn | dropColumn | join =>
      exact hwords _ (by simp [isWord_name, isWord_keyword])

theorem Sentence.balanced {command : Command} (h : Sentence tokens command) :
    Balanced tokens := by
  obtain ⟨phrase, hphrase, rfl⟩ := h
  refine hphrase.inside.balanced.append ⟨rfl, fun n => ?_⟩
  rw [List.count_eq_zero.mpr fun hmem => by simpa using List.mem_of_mem_take hmem]
  exact Nat.zero_le _

theorem Sentence.semicolon_notMem {command : Command} (h : Sentence tokens command) :
    .symbol .semicolon ∉ tokens.dropLast := by
  obtain ⟨phrase, hphrase, rfl⟩ := h
  rw [List.dropLast_concat]
  exact hphrase.inside.no_semicolon

end Rowbase.Grammar
