import Rowbase.Proofs.Recognition

/-!
# Reading accepts exactly the grammar

A list of tokens is read as a command exactly if it is a sentence of the grammar that says this
command, so a sentence says one command only. Whatever is no sentence is refused, among it every
list in which something follows a semicolon or in which the parentheses are not balanced.
-/

namespace Rowbase

namespace Reader

open Grammar

variable {tokens rest : List Token}

/-! ## Lists of names, literals and assignments -/

theorem name_sound (noun : Noun) : Sound (name noun) IsName := by
  intro tokens spelling rest h
  exact ⟨[.name spelling], rfl, name_eq_ok_iff.mp h⟩

theorem name_complete (noun : Noun) (bound : Nat) : CompleteTo bound (name noun) IsName := by
  rintro _ spelling rest - rfl
  exact name_eq_ok_iff.mpr rfl

theorem literal_sound : Sound literal IsLiteral := by
  intro tokens value rest h
  exact ⟨[value.token], rfl, literal_eq_ok_iff.mp h⟩

theorem literal_complete (bound : Nat) : CompleteTo bound literal IsLiteral := by
  rintro _ value rest - rfl
  exact literal_eq_ok_iff.mpr rfl

theorem assignment_eq_ok_iff {value : Assignment} :
    assignment tokens = .ok (value, rest) ↔
      tokens = .name value.column :: .symbol .assign :: value.literal.token :: rest := by
  simp only [assignment, then_eq_ok_iff, name_eq_ok_iff, symbol_eq_ok_iff, literal_eq_ok_iff,
    return_eq_ok_iff]
  constructor
  · rintro ⟨column, _, rfl, taken, _, rfl, found, _, rfl, rfl, rfl⟩
    rfl
  · rintro rfl
    exact ⟨value.column, _, rfl, (), _, rfl, value.literal, rest, rfl, rfl, rfl⟩

theorem assignment_sound : Sound assignment IsAssignment := by
  intro tokens value rest h
  exact ⟨_, rfl, assignment_eq_ok_iff.mp h⟩

theorem assignment_complete (bound : Nat) : CompleteTo bound assignment IsAssignment := by
  rintro _ value rest - rfl
  exact assignment_eq_ok_iff.mpr rfl

theorem names_eq_ok_iff (noun : Noun) {names : List String} :
    list (name noun) tokens = .ok (names, rest) ↔
      ∃ phrase, CommaList IsName phrase names ∧ tokens = phrase ++ rest ∧ NoComma rest :=
  list_eq_ok_iff (name_sound noun) (name_complete noun)

/-! ## What follows the first word -/

theorem create_sound : Sound create fun phrase => Body (.keyword .create :: phrase) := by
  intro tokens value rest h
  rw [create] at h
  simp only [↓branch_eq_ok_iff, then_eq_ok_iff, name_eq_ok_iff, return_eq_ok_iff,
    closedList_eq_ok_iff (name_sound _) (name_complete _), reduceCtorEq, and_false,
    or_false] at h
  rcases h with ⟨_, rfl, database, _, rfl, rfl, rfl⟩ | ⟨-, _, rfl, table, left, rfl, h⟩
  · exact ⟨_, .createDatabase database, rfl⟩
  · rcases h with ⟨_, rfl, columns, _, ⟨phrase, hlist, rfl⟩, rfl, rfl⟩ | ⟨-, rfl, rfl⟩
    · exact ⟨_, .createTable table (.columns hlist), by simp [Command.inParens]⟩
    · exact ⟨_, .createTable table .none, rfl⟩

theorem drop_sound : Sound drop fun phrase => Body (.keyword .drop :: phrase) := by
  intro tokens value rest h
  rw [drop] at h
  simp only [↓branch_eq_ok_iff, then_eq_ok_iff, name_eq_ok_iff, return_eq_ok_iff,
    expected_ne_ok, and_false, or_false] at h
  rcases h with ⟨_, rfl, name, _, rfl, rfl, rfl⟩ | ⟨-, _, rfl, name, _, rfl, rfl, rfl⟩
  · exact ⟨_, .dropDatabase name, rfl⟩
  · exact ⟨_, .dropTable name, rfl⟩

theorem alter_sound :
    Sound alter fun phrase change => Body (.keyword .alter :: phrase) (.change change) := by
  intro tokens value rest h
  simp only [alter, ↓branch_eq_ok_iff, then_eq_ok_iff, keyword_eq_ok_iff, name_eq_ok_iff,
    return_eq_ok_iff, expected_ne_ok, and_false, or_false] at h
  obtain ⟨taken, _, rfl, table, _, rfl, h⟩ := h
  rcases h with ⟨_, rfl, column, _, rfl, rfl, rfl⟩ | ⟨-, _, rfl, column, _, rfl, rfl, rfl⟩
  · exact ⟨_, .addColumn table column, rfl⟩
  · exact ⟨_, .dropColumn table column, rfl⟩

theorem insert_sound :
    Sound insert fun phrase change => Body (.keyword .insert :: phrase) (.change change) := by
  intro tokens value rest h
  simp only [insert, then_eq_ok_iff, keyword_eq_ok_iff, name_eq_ok_iff, symbol_eq_ok_iff,
    closedList_eq_ok_iff literal_sound literal_complete, return_eq_ok_iff] at h
  obtain ⟨taken, _, rfl, table, _, rfl, taken, _, rfl, taken, _, rfl, h⟩ := h
  obtain ⟨values, _, ⟨phrase, hlist, rfl⟩, rfl, rfl⟩ := h
  exact ⟨_, .insert table hlist, by simp [Command.inParens]⟩

theorem wantedColumns_sound : Sound wantedColumns IsWanted := by
  intro tokens value rest h
  rw [wantedColumns] at h
  simp only [↓branch_eq_ok_iff, then_eq_ok_iff, names_eq_ok_iff,
    return_eq_ok_iff] at h
  rcases h with ⟨_, rfl, rfl, rfl⟩ | ⟨-, columns, _, ⟨phrase, hlist, rfl, -⟩, rfl, rfl⟩
  · exact ⟨_, .all, rfl⟩
  · exact ⟨phrase, .columns hlist, rfl⟩

theorem select_sound :
    Sound select fun phrase query => Body (.keyword .select :: phrase) (.query query) := by
  intro tokens value rest h
  simp only [select, ↓branch_eq_ok_iff, then_eq_ok_iff, keyword_eq_ok_iff, name_eq_ok_iff,
    condition_eq_ok_iff, return_eq_ok_iff] at h
  obtain ⟨columns, _, hread, taken, _, rfl, table, _, rfl, h⟩ := h
  obtain ⟨wanted, hwanted, rfl⟩ := wantedColumns_sound _ _ _ hread
  rcases h with ⟨_, rfl, condition, _, ⟨filter, hfilter, rfl, -⟩, rfl, rfl⟩ | ⟨-, rfl, rfl⟩
  · exact ⟨_, .select table hwanted (.condition hfilter), by simp⟩
  · exact ⟨_, .select table hwanted .none, by simp⟩

theorem update_sound :
    Sound update fun phrase change => Body (.keyword .update :: phrase) (.change change) := by
  intro tokens value rest h
  simp only [update, whereCondition, then_eq_ok_iff, keyword_eq_ok_iff, name_eq_ok_iff,
    list_eq_ok_iff assignment_sound assignment_complete, condition_eq_ok_iff,
    return_eq_ok_iff] at h
  obtain ⟨table, _, rfl, taken, _, rfl, assignments, _, ⟨list, hlist, rfl, -⟩, h⟩ := h
  obtain ⟨condition, _, ⟨taken, _, rfl, filter, hfilter, rfl, -⟩, rfl, rfl⟩ := h
  exact ⟨_, .update table hlist hfilter, by simp⟩

theorem delete_sound :
    Sound delete fun phrase change => Body (.keyword .delete :: phrase) (.change change) := by
  intro tokens value rest h
  simp only [delete, whereCondition, then_eq_ok_iff, keyword_eq_ok_iff, name_eq_ok_iff,
    condition_eq_ok_iff, return_eq_ok_iff] at h
  obtain ⟨taken, _, rfl, table, _, rfl, h⟩ := h
  obtain ⟨condition, _, ⟨taken, _, rfl, filter, hfilter, rfl, -⟩, rfl, rfl⟩ := h
  exact ⟨_, .delete table hfilter, rfl⟩

theorem join_sound :
    Sound join fun phrase query => Body (.keyword .join :: phrase) (.query query) := by
  intro tokens value rest h
  simp only [join, then_eq_ok_iff, keyword_eq_ok_iff, name_eq_ok_iff, return_eq_ok_iff] at h
  obtain ⟨leftTable, _, rfl, taken, _, rfl, rightTable, _, rfl, taken, _, rfl, h⟩ := h
  obtain ⟨leftColumn, _, rfl, taken, _, rfl, rightColumn, _, rfl, rfl, rfl⟩ := h
  exact ⟨_, .join leftTable rightTable leftColumn rightColumn, rfl⟩

/-- What a reader takes is still a phrase after the command has been put together. -/
theorem Sound.map {α β : Type} {reader : Reader α} {Phrase : List Token → β → Prop} {wrap : α → β}
    (h : Sound reader fun phrase value => Phrase phrase (wrap value)) :
    Sound (do return wrap (← reader)) Phrase := by
  intro tokens value rest hread
  obtain ⟨found, left, hfound, hreturn⟩ := then_eq_ok_iff.mp hread
  obtain ⟨rfl, rfl⟩ := return_eq_ok_iff.mp hreturn
  exact h _ _ _ hfound

theorem body_sound (word : Keyword) :
    Sound (body word) fun phrase => Body (.keyword word :: phrase) := by
  unfold body
  split
  · apply Sound.map
    intro tokens database rest h
    exact ⟨_, .use database, name_eq_ok_iff.mp h⟩
  · exact create_sound
  · exact drop_sound
  · exact alter_sound.map
  · exact insert_sound.map
  · exact select_sound.map
  · exact update_sound.map
  · exact delete_sound.map
  · exact join_sound.map
  · intro tokens value rest h
    simp at h

/-! ## Every phrase is taken -/

/-- A list of names does not begin with a star. -/
theorem head?_of_commaList {phrase : List Token} {names : List String}
    (h : CommaList IsName phrase names) (after : List Token) :
    ∃ name, (phrase ++ after).head? = some (.name name) := by
  cases h with
  | single item => exact ⟨_, congrArg (fun tokens => (tokens ++ after).head?) item⟩
  | more item others =>
      obtain rfl := item
      exact ⟨_, rfl⟩

variable (rest)

theorem createTable_complete {phrase : List Token} {columns : List String} (table : String)
    (h : IsColumns phrase columns) :
    create (.keyword .table :: .name table :: phrase ++ .symbol .semicolon :: rest) =
      .ok (.change (.createTable table columns), .symbol .semicolon :: rest) := by
  rw [create]
  simp only [↓branch_eq_ok_iff, then_eq_ok_iff, name_eq_ok_iff, return_eq_ok_iff,
    closedList_eq_ok_iff (name_sound _) (name_complete _)]
  right
  refine ⟨by simp, .inl ⟨_, rfl, table, _, rfl, ?_⟩⟩
  cases h with
  | none => exact .inr ⟨by simp, rfl, rfl⟩
  | columns list =>
      exact .inl ⟨_, rfl, columns, _, ⟨_, list, by simp⟩, rfl, rfl⟩

theorem insert_complete {phrase : List Token} {values : List Literal} (table : String)
    (h : CommaList IsLiteral phrase values) :
    insert (.keyword .into :: .name table :: .keyword .values :: .symbol .openParen
      :: phrase ++ .symbol .closeParen :: rest) = .ok (.insert table values, rest) := by
  simp only [insert, then_eq_ok_iff, keyword_eq_ok_iff, name_eq_ok_iff, symbol_eq_ok_iff,
    closedList_eq_ok_iff literal_sound literal_complete, return_eq_ok_iff]
  exact ⟨(), _, rfl, table, _, rfl, (), _, rfl, (), _, rfl, values, _, ⟨_, h, rfl⟩, rfl, rfl⟩

theorem wantedColumns_complete {phrase : List Token} {columns : Option (List String)}
    (after : List Token) (h : IsWanted phrase columns) (hafter : NoComma after) :
    wantedColumns (phrase ++ after) = .ok (columns, after) := by
  rw [wantedColumns, branch_eq_ok_iff]
  cases h with
  | all => exact .inl ⟨after, rfl, rfl⟩
  | columns list =>
      obtain ⟨name, hname⟩ := head?_of_commaList list after
      refine .inr ⟨by simp [hname], ?_⟩
      have hread := (names_eq_ok_iff .column).mpr ⟨_, list, rfl, hafter⟩
      exact then_eq_ok_iff.mpr ⟨_, _, hread, rfl⟩

theorem select_complete {wanted filter : List Token} {columns : Option (List String)}
    {filtering : Option Condition} (table : String) (hwanted : IsWanted wanted columns)
    (hfilter : IsFilter filter filtering) :
    select (wanted ++ .keyword .«from» :: .name table :: filter ++ .symbol .semicolon :: rest) =
      .ok (.select { table, columns, condition := filtering }, .symbol .semicolon :: rest) := by
  have hread := wantedColumns_complete (.keyword .«from» :: .name table :: filter
    ++ .symbol .semicolon :: rest) hwanted (by simp [NoComma])
  simp only [select, ↓branch_eq_ok_iff, then_eq_ok_iff, keyword_eq_ok_iff, name_eq_ok_iff,
    condition_eq_ok_iff, return_eq_ok_iff]
  rw [List.append_assoc]
  refine ⟨columns, _, hread, (), _, rfl, table, _, rfl, ?_⟩
  cases hfilter with
  | none => exact .inr ⟨by simp, rfl, rfl⟩
  | condition filter =>
      exact .inl ⟨_, rfl, _, _, ⟨_, filter, rfl, noConnective_symbol _⟩, rfl, rfl⟩

theorem whereCondition_complete {filter : List Token} {filtering : Condition}
    (h : IsCondition .condition filter filtering) :
    whereCondition (.keyword .«where» :: filter ++ .symbol .semicolon :: rest) =
      .ok (filtering, .symbol .semicolon :: rest) := by
  simp only [whereCondition, then_eq_ok_iff, keyword_eq_ok_iff, condition_eq_ok_iff]
  exact ⟨(), _, rfl, filter, h, rfl, noConnective_symbol _⟩

theorem update_complete {phrase filter : List Token} {assignments : List Assignment}
    {filtering : Condition} (table : String) (h : CommaList IsAssignment phrase assignments)
    (hfilter : IsCondition .condition filter filtering) :
    update (.name table :: .keyword .set :: phrase ++ .keyword .«where» :: filter
        ++ .symbol .semicolon :: rest) =
      .ok (.update table assignments filtering, .symbol .semicolon :: rest) := by
  simp only [update, then_eq_ok_iff, keyword_eq_ok_iff, name_eq_ok_iff, return_eq_ok_iff,
    list_eq_ok_iff assignment_sound assignment_complete]
  refine ⟨table, _, rfl, (), _, rfl, assignments, _, ⟨phrase, h, ?_, ?_⟩, filtering, _,
    whereCondition_complete rest hfilter, rfl, rfl⟩
  · simp
  · simp [NoComma]

theorem delete_complete {filter : List Token} {filtering : Condition} (table : String)
    (hfilter : IsCondition .condition filter filtering) :
    delete (.keyword .«from» :: .name table :: .keyword .«where» :: filter
        ++ .symbol .semicolon :: rest) =
      .ok (.delete table filtering, .symbol .semicolon :: rest) := by
  simp only [delete, then_eq_ok_iff, keyword_eq_ok_iff, name_eq_ok_iff, return_eq_ok_iff]
  exact ⟨(), _, rfl, table, _, rfl, filtering, _, whereCondition_complete rest hfilter, rfl, rfl⟩

theorem body_complete {phrase : List Token} {value : Command} (h : Body phrase value) :
    ∃ word others, phrase = .keyword word :: others ∧
      body word (others ++ .symbol .semicolon :: rest) =
        .ok (value, .symbol .semicolon :: rest) := by
  cases h with
  | use database => exact ⟨.use, _, rfl, rfl⟩
  | createDatabase database => exact ⟨.create, _, rfl, rfl⟩
  | createTable table list => exact ⟨.create, _, rfl, createTable_complete rest table list⟩
  | dropDatabase database => exact ⟨.drop, _, rfl, rfl⟩
  | dropTable table => exact ⟨.drop, _, rfl, rfl⟩
  | addColumn table column => exact ⟨.alter, _, rfl, rfl⟩
  | dropColumn table column => exact ⟨.alter, _, rfl, rfl⟩
  | insert table list =>
      have hread := insert_complete (.symbol .semicolon :: rest) table list
      refine ⟨.insert, _, rfl, then_eq_ok_iff.mpr ⟨_, _, ?_, rfl⟩⟩
      simpa [Command.inParens] using hread
  | select table list filtered =>
      have hread := select_complete rest table list filtered
      exact ⟨.select, _, rfl, then_eq_ok_iff.mpr ⟨_, _, by simpa using hread, rfl⟩⟩
  | update table assigned filtered =>
      have hread := update_complete rest table assigned filtered
      exact ⟨.update, _, rfl, then_eq_ok_iff.mpr ⟨_, _, by simpa using hread, rfl⟩⟩
  | delete table filtered =>
      have hread := delete_complete rest table filtered
      exact ⟨.delete, _, rfl, then_eq_ok_iff.mpr ⟨_, _, hread, rfl⟩⟩
  | join leftTable rightTable leftColumn rightColumn => exact ⟨.join, _, rfl, rfl⟩

variable {rest}

/-- A command is taken up to its semicolon, and nothing else is taken. -/
theorem command_eq_ok_iff {value : Command} :
    command tokens = .ok (value, rest) ↔
      ∃ phrase, Sentence phrase value ∧ tokens = phrase ++ rest := by
  constructor
  · intro h
    unfold command at h
    split at h
    · cases h
    next word others =>
      simp only [then_eq_ok_iff, symbol_eq_ok_iff, return_eq_ok_iff] at h
      obtain ⟨found, _, hread, taken, _, rfl, rfl, rfl⟩ := h
      obtain ⟨phrase, hphrase, rfl⟩ := body_sound word _ _ _ hread
      exact ⟨_, ⟨_, hphrase, rfl⟩, by simp⟩
    · cases h
  · rintro ⟨_, ⟨phrase, hphrase, rfl⟩, rfl⟩
    obtain ⟨word, others, rfl, hread⟩ := body_complete rest hphrase
    simp only [List.cons_append, List.append_assoc, List.nil_append, command, then_eq_ok_iff,
      symbol_eq_ok_iff, return_eq_ok_iff]
    exact ⟨value, _, hread, (), rest, rfl, rfl, rfl⟩

end Reader

namespace Command

open Grammar (Sentence Balanced)

variable {tokens : List Token} {command : Command}

theorem read_eq_ok_iff : Command.read tokens = .ok command ↔ Sentence tokens command := by
  have hcommand : Sentence tokens command ↔ Reader.command tokens = .ok (command, []) := by
    simp [Reader.command_eq_ok_iff]
  rw [hcommand, Command.read]
  split
  next fault hread => simp [hread]
  next found hread => simp [hread]
  next found next rest hread => simp [hread]

theorem read_eq_error_iff :
    (∃ fault, Command.read tokens = .error fault) ↔ ∀ command, ¬Sentence tokens command := by
  simp only [← read_eq_ok_iff]
  cases Command.read tokens with
  | error fault => simp
  | ok command => simp

/-- Exactly the sentences of the grammar are read, each as the one command that it says. Whatever
is no sentence is refused, and no sentence goes on after a semicolon or has parentheses that are
not balanced. -/
theorem read_iff_sentence (tokens : List Token) :
    (∀ command, Command.read tokens = .ok command ↔ Sentence tokens command) ∧
      (∀ first second, Sentence tokens first → Sentence tokens second → first = second) ∧
      ((∃ fault, Command.read tokens = .error fault) ↔ ∀ command, ¬Sentence tokens command) ∧
      (.symbol .semicolon ∈ tokens.dropLast ∨ ¬Balanced tokens →
        ∃ fault, Command.read tokens = .error fault) := by
  refine ⟨fun _ => read_eq_ok_iff, fun first second hfirst hsecond => ?_, read_eq_error_iff, ?_⟩
  · have hread := read_eq_ok_iff.mpr hfirst
    rw [read_eq_ok_iff.mpr hsecond] at hread
    cases hread
    rfl
  · intro h
    rw [read_eq_error_iff]
    intro command hsentence
    cases h with
    | inl hmore => exact hsentence.semicolon_notMem hmore
    | inr hopen => exact hopen hsentence.balanced

/-- `DELETE FROM t WHERE (a == NULL;` lacks a parenthesis. -/
theorem read_of_open_parenthesis :
    ¬Balanced [.keyword .delete, .keyword .«from», .name "t", .keyword .«where»,
        .symbol .openParen, .name "a", .symbol .equal, .keyword .null, .symbol .semicolon] ∧
      ∃ fault, Command.read [.keyword .delete, .keyword .«from», .name "t", .keyword .«where»,
        .symbol .openParen, .name "a", .symbol .equal, .keyword .null, .symbol .semicolon] =
          .error fault := by
  have hopen : ¬Balanced [.keyword .delete, .keyword .«from», .name "t", .keyword .«where»,
      .symbol .openParen, .name "a", .symbol .equal, .keyword .null, .symbol .semicolon] :=
    fun h => absurd h.count_eq (by decide)
  exact ⟨hopen, (read_iff_sentence _).2.2.2 (.inr hopen)⟩

end Command

end Rowbase
