import Rowbase.Proofs.Readings
import Rowbase.Proofs.Sentences

/-!
# Names that commands mention

Every name that a command mentions, of a database, a table or a column, stands as a token in the
sentence that says the command. In a command that is read from a line it is therefore a word of
that line.
-/

namespace Rowbase

/-- The names that a change mentions. -/
def Change.mentioned : Change → List String
  | .createTable table columns => table :: columns
  | .dropTable table | .insert table _ => [table]
  | .addColumn table column | .dropColumn table column => [table, column]
  | .update table assignments condition =>
    table :: assignments.map Assignment.column ++ condition.columns
  | .delete table condition => table :: condition.columns

/-- The names that a query mentions. -/
def Query.mentioned : Query → List String
  | .select selection =>
    selection.table :: selection.columns.getD [] ++ selection.condition.elim [] Condition.columns
  | .join asked => [asked.leftTable, asked.rightTable, asked.leftColumn, asked.rightColumn]

/-- The names that a command mentions. -/
def Command.mentioned : Command → List String
  | .use database | .createDatabase database | .dropDatabase database => [database]
  | .change asked => asked.mentioned
  | .query asked => asked.mentioned

namespace Grammar

variable {α : Type} {tokens : List Token}

/-- Every item of a list has its phrase in it. -/
theorem CommaList.exists_subset {Item : List Token → α → Prop} {values : List α}
    (h : CommaList Item tokens values) {value : α} (hvalue : value ∈ values) :
    ∃ phrase, Item phrase value ∧ phrase ⊆ tokens := by
  induction h with
  | single item =>
      obtain rfl := List.mem_singleton.mp hvalue
      exact ⟨_, item, List.Subset.refl _⟩
  | more item others ih =>
      rcases List.mem_cons.mp hvalue with rfl | hrest
      · exact ⟨_, item, List.subset_append_left _ _⟩
      · obtain ⟨phrase, hphrase, hsubset⟩ := ih hrest
        have hrest := List.subset_cons_of_subset (.symbol .comma) hsubset
        exact ⟨phrase, hphrase, List.subset_append_of_subset_right _ hrest⟩

theorem CommaList.name_mem {names : List String} (h : CommaList IsName tokens names)
    {name : String} (hname : name ∈ names) : .name name ∈ tokens := by
  obtain ⟨phrase, rfl, hsubset⟩ := h.exists_subset hname
  exact hsubset (.head _)

theorem IsCondition.name_mem {part : Part} {condition : Condition}
    (h : IsCondition part tokens condition) {name : String} (hname : name ∈ condition.columns) :
    .name name ∈ tokens := by
  induction h with
  | comparison column comparator literal =>
      obtain rfl := List.mem_singleton.mp hname
      exact .head _
  | grouped _ ih => simp [Command.inParens, ih hname]
  | single _ ih => exact ih hname
  | and _ _ ihleft ihright =>
      rcases List.mem_append.mp hname with hleft | hright
      · exact List.mem_append_left _ (ihleft hleft)
      · exact List.mem_append_right _ (.tail _ (ihright hright))
  | or _ _ ihleft ihright =>
      rcases List.mem_append.mp hname with hleft | hright
      · exact List.mem_append_left _ (ihleft hleft)
      · exact List.mem_append_right _ (.tail _ (ihright hright))

theorem IsColumns.name_mem {columns : List String} (h : IsColumns tokens columns)
    {name : String} (hname : name ∈ columns) : .name name ∈ tokens := by
  cases h with
  | none => simp at hname
  | columns list => simp [Command.inParens, list.name_mem hname]

theorem IsWanted.name_mem {columns : Option (List String)} (h : IsWanted tokens columns)
    {name : String} (hname : name ∈ columns.getD []) : .name name ∈ tokens := by
  cases h with
  | all => simp at hname
  | columns list => exact list.name_mem hname

theorem IsFilter.name_mem {condition : Option Condition} (h : IsFilter tokens condition)
    {name : String} (hname : name ∈ condition.elim [] Condition.columns) :
    .name name ∈ tokens := by
  cases h with
  | none => simp at hname
  | condition filter => exact .tail _ (filter.name_mem hname)

/-- What a command mentions stands in its sentence. -/
theorem Body.name_mem {command : Command} (h : Body tokens command) {name : String}
    (hname : name ∈ command.mentioned) : .name name ∈ tokens := by
  cases h with
  | createTable table list =>
      rcases List.mem_cons.mp hname with rfl | hcolumn
      · simp
      · exact List.mem_append_right _ (list.name_mem hcolumn)
  | select table list filtered =>
      rcases List.mem_append.mp hname with htable | hcondition
      · rcases List.mem_cons.mp htable with rfl | hcolumn
        · simp
        · simp [list.name_mem hcolumn]
      · exact List.mem_append_right _ (filtered.name_mem hcondition)
  | update table assigned filtered =>
      rcases List.mem_append.mp hname with htable | hcondition
      · rcases List.mem_cons.mp htable with rfl | hcolumn
        · simp
        · obtain ⟨assignment, hassignment, rfl⟩ := List.mem_map.mp hcolumn
          obtain ⟨phrase, rfl, hsubset⟩ := assigned.exists_subset hassignment
          have hmem := hsubset (List.mem_cons_self)
          simp [hmem]
      · exact List.mem_append_right _ (.tail _ (filtered.name_mem hcondition))
  | delete table filtered =>
      rcases List.mem_cons.mp hname with rfl | hcondition
      · simp
      · exact List.mem_append_right _ (filtered.name_mem hcondition)
  | use | createDatabase | dropDatabase | dropTable | addColumn | dropColumn | insert | join =>
      simp only [Command.mentioned, Change.mentioned, Query.mentioned, List.mem_cons,
        List.not_mem_nil, or_false] at hname
      simp [hname]

end Grammar

/-- Every name that a command mentions is a word of the line it is read from. -/
theorem Command.named_of_ofLine {line : String} {command : Command}
    (h : Command.ofLine line = .ok command) {name : String} (hname : name ∈ command.mentioned) :
    Token.Named name := by
  unfold ofLine at h
  split at h
  · simp at h
  next tokens hscan =>
    split at h
    · simp at h
    next hread =>
      cases h
      obtain ⟨body, hbody, rfl⟩ := read_eq_ok_iff.mp hread
      have hmem := List.mem_append_left [.symbol .semicolon] (hbody.name_mem hname)
      exact Token.sound_of_scanChars hscan _ hmem

end Rowbase
