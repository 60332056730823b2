import Rowbase.Proofs.RecasedLines
import Rowbase.Proofs.Sentences

/-!
# Commands in other letters

The grammar takes no account of how names are spelled. A line that says a command therefore says
the same command in other letters, but for the spelling of the names in it, and a line that says
none says none in other letters either.
-/

namespace Rowbase

/-! ## Commands that are the same but for the spelling of names -/

/-- The same names in the same order. -/
abbrev SameNames : List String → List String → Prop :=
  List.Forall₂ Name.Same

/-- The same condition on columns that are the same but for their spelling. -/
inductive Condition.Alike : Condition → Condition → Prop where
  | comparison {column other : String} (same : Name.Same column other) (comparator : Comparator)
      (literal : Literal) :
      Alike (.comparison column comparator literal) (.comparison other comparator literal)
  | and {left left' right right' : Condition} (hleft : Alike left left')
      (hright : Alike right right') : Alike (.and left right) (.and left' right')
  | or {left left' right right' : Condition} (hleft : Alike left left')
      (hright : Alike right right') : Alike (.or left right) (.or left' right')

/-- The same value for a column, however that is spelled. -/
structure Assignment.Alike (first second : Assignment) : Prop where
  column : Name.Same first.column second.column
  literal : first.literal = second.literal

/-- The same rows and columns of a table but for the spelling of names. -/
structure Selection.Alike (first second : Selection) : Prop where
  table : Name.Same first.table second.table
  columns : Option.Rel SameNames first.columns second.columns
  condition : Option.Rel Condition.Alike first.condition second.condition

/-- The same tables and columns but for the spelling of their names. -/
structure Join.Alike (first second : Join) : Prop where
  leftTable : Name.Same first.leftTable second.leftTable
  rightTable : Name.Same first.rightTable second.rightTable
  leftColumn : Name.Same first.leftColumn second.leftColumn
  rightColumn : Name.Same first.rightColumn second.rightColumn

/-- The same question but for the spelling of names. -/
inductive Query.Alike : Query → Query → Prop where
  | select {first second : Selection} (alike : first.Alike second) :
      Alike (.select first) (.select second)
  | join {first second : Join} (alike : first.Alike second) : Alike (.join first) (.join second)

/-- The same change but for the spelling of names. -/
inductive Change.Alike : Change → Change → Prop where
  | createTable {table other : String} {columns columns' : List String}
      (same : Name.Same table other) (names : SameNames columns columns') :
      Alike (.createTable table columns) (.createTable other columns')
  | dropTable {table other : String} (same : Name.Same table other) :
      Alike (.dropTable table) (.dropTable other)
  | addColumn {table other column column' : String} (same : Name.Same table other)
      (name : Name.Same column column') :
      Alike (.addColumn table column) (.addColumn other column')
  | dropColumn {table other column column' : String} (same : Name.Same table other)
      (name : Name.Same column column') :
      Alike (.dropColumn table column) (.dropColumn other column')
  | insert {table other : String} (same : Name.Same table other) (values : List Literal) :
      Alike (.insert table values) (.insert other values)
  | update {table other : String} {assignments assignments' : List Assignment}
      {condition condition' : Condition} (same : Name.Same table other)
      (assigned : List.Forall₂ Assignment.Alike assignments assignments')
      (alike : condition.Alike condition') :
      Alike (.update table assignments condition) (.update other assignments' condition')
  | delete {table other : String} {condition condition' : Condition}
      (same : Name.Same table other) (alike : condition.Alike condition') :
      Alike (.delete table condition) (.delete other condition')

/-- The same command but for the spelling of names. -/
inductive Command.Alike : Command → Command → Prop where
  | use {database other : String} (same : Name.Same database other) :
      Alike (.use database) (.use other)
  | createDatabase {database other : String} (same : Name.Same database other) :
      Alike (.createDatabase database) (.createDatabase other)
  | dropDatabase {database other : String} (same : Name.Same database other) :
      Alike (.dropDatabase database) (.dropDatabase other)
  | change {first second : Change} (alike : first.Alike second) :
      Alike (.change first) (.change second)
  | query {first second : Query} (alike : first.Alike second) :
      Alike (.query first) (.query second)

namespace Token

variable {token : Token}

theorem Alike.symm {other : Token} (h : Alike token other) : Alike other token := by
  cases h with
  | refl => exact .refl _
  | name same => exact .name same.symm

theorem alike_name_iff {text : String} :
    Alike token (.name text) ↔ ∃ other, token = .name other ∧ Name.Same other text := by
  constructor
  · rintro (_ | ⟨same⟩)
    · exact ⟨text, rfl, .refl text⟩
    · exact ⟨_, rfl, same⟩
  · rintro ⟨other, rfl, same⟩
    exact .name same

theorem alike_iff_eq {other : Token} (h : ∀ text, other ≠ .name text) :
    Alike token other ↔ token = other := by
  constructor
  · rintro (_ | ⟨same⟩)
    · rfl
    · exact absurd rfl (h _)
  · rintro rfl
    exact .refl _

end Token

@[simp] theorem Literal.token_ne_name (literal : Literal) (text : String) :
    literal.token ≠ .name text := by
  cases literal <;> simp [Literal.token]

@[simp] theorem Comparator.token_ne_name (comparator : Comparator) (text : String) :
    comparator.token ≠ .name text := by
  cases comparator <;> simp [Comparator.token]

namespace Grammar

/-- The same tokens but for the spelling of names. -/
abbrev SameTokens : List Token → List Token → Prop :=
  List.Forall₂ Token.Alike

/-- What is said with some names is said with the same names in other letters. -/
def CarriesOver {α : Type} (Phrase : List Token → α → Prop) (alike : α → α → Prop) : Prop :=
  ∀ tokens others value, Phrase tokens value → SameTokens others tokens →
    ∃ other, Phrase others other ∧ alike other value

variable {α : Type} {tokens others first rest : List Token}

theorem sameTokens_cons {token : Token} (h : ∀ text, token ≠ .name text) :
    SameTokens others (token :: rest) ↔
      ∃ more, SameTokens more rest ∧ others = token :: more := by
  simp [List.forall₂_cons_right_iff, Token.alike_iff_eq h]

theorem sameTokens_cons_name {name : String} :
    SameTokens others (.name name :: rest) ↔
      ∃ other more, Name.Same other name ∧ SameTokens more rest ∧
        others = .name other :: more := by
  simp only [List.forall₂_cons_right_iff, Token.alike_name_iff]
  constructor
  · rintro ⟨_, more, ⟨other, rfl, hsame⟩, hmore, rfl⟩
    exact ⟨other, more, hsame, hmore, rfl⟩
  · rintro ⟨other, more, hsame, hmore, rfl⟩
    exact ⟨_, more, ⟨other, rfl, hsame⟩, hmore, rfl⟩

theorem sameTokens_append :
    SameTokens others (first ++ rest) ↔
      ∃ left, SameTokens left first ∧ ∃ right, SameTokens right rest ∧ others = left ++ right := by
  constructor
  · intro h
    exact ⟨_, List.forall₂_take_append _ _ _ h, _, List.forall₂_drop_append _ _ _ h,
      (List.take_append_drop first.length others).symm⟩
  · rintro ⟨left, hleft, right, hright, rfl⟩
    exact List.rel_append hleft hright

theorem sameTokens_inParens :
    SameTokens others (Command.inParens tokens) ↔
      ∃ inner, SameTokens inner tokens ∧ others = Command.inParens inner := by
  simp (disch := simp) only [Command.inParens, List.cons_append, sameTokens_append,
    sameTokens_cons, List.forall₂_nil_right_iff]
  constructor
  · rintro ⟨_, ⟨inner, hinner, _, ⟨_, rfl, rfl⟩, rfl⟩, rfl⟩
    exact ⟨inner, hinner, rfl⟩
  · rintro ⟨inner, hinner, rfl⟩
    exact ⟨_, ⟨inner, hinner, _, ⟨_, rfl, rfl⟩, rfl⟩, rfl⟩

/-! ## Phrases -/

theorem carriesOver_isName : CarriesOver IsName Name.Same := by
  rintro _ others name rfl hsame
  simp (disch := simp) only [List.forall₂_nil_right_iff, sameTokens_cons_name] at hsame
  obtain ⟨other, _, hname, rfl, rfl⟩ := hsame
  exact ⟨other, rfl, hname⟩

theorem carriesOver_isLiteral : CarriesOver IsLiteral Eq := by
  rintro _ others literal rfl hsame
  simp (disch := simp) only [List.forall₂_nil_right_iff, sameTokens_cons] at hsame
  obtain ⟨_, rfl, rfl⟩ := hsame
  exact ⟨literal, rfl, rfl⟩

theorem carriesOver_isAssignment : CarriesOver IsAssignment Assignment.Alike := by
  rintro _ others assignment rfl hsame
  simp (disch := simp) only [List.forall₂_nil_right_iff, sameTokens_cons_name,
    sameTokens_cons] at hsame
  obtain ⟨column, _, hname, ⟨_, ⟨_, rfl, rfl⟩, rfl⟩, rfl⟩ := hsame
  exact ⟨{ column, literal := assignment.literal }, rfl, hname, rfl⟩

theorem carriesOver_commaList {Item : List Token → α → Prop} {alike : α → α → Prop}
    (h : CarriesOver Item alike) : CarriesOver (CommaList Item) (List.Forall₂ alike) := by
  intro tokens others values hlist hsame
  induction hlist generalizing others with
  | single item =>
      obtain ⟨other, hother, halike⟩ := h _ _ _ item hsame
      exact ⟨[other], .single hother, .cons halike .nil⟩
  | more item _ ih =>
      simp (disch := simp) only [sameTokens_append, sameTokens_cons] at hsame
      obtain ⟨left, hleft, _, ⟨right, hright, rfl⟩, rfl⟩ := hsame
      obtain ⟨other, hother, halike⟩ := h _ _ _ item hleft
      obtain ⟨more, hmore, hrest⟩ := ih _ hright
      exact ⟨other :: more, .more hother hmore, .cons halike hrest⟩

theorem carriesOver_isCondition (part : Part) :
    CarriesOver (IsCondition part) Condition.Alike := by
  intro tokens others condition hcondition hsame
  induction hcondition generalizing others with
  | comparison column comparator literal =>
      simp (disch := simp) only [List.forall₂_nil_right_iff, sameTokens_cons_name,
        sameTokens_cons] at hsame
      obtain ⟨other, _, hname, ⟨_, ⟨_, rfl, rfl⟩, rfl⟩, rfl⟩ := hsame
      exact ⟨_, .comparison other comparator literal, .comparison hname comparator literal⟩
  | grouped _ ih =>
      obtain ⟨inner, hinner, rfl⟩ := sameTokens_inParens.mp hsame
      obtain ⟨other, hother, halike⟩ := ih _ hinner
      exact ⟨other, .grouped hother, halike⟩
  | single _ ih =>
      obtain ⟨other, hother, halike⟩ := ih _ hsame
      exact ⟨other, .single hother, halike⟩
  | and _ _ ihleft ihright =>
      simp (disch := simp) only [sameTokens_append, sameTokens_cons] at hsame
      obtain ⟨left, hleft, _, ⟨right, hright, rfl⟩, rfl⟩ := hsame
      obtain ⟨before, hbefore, halike⟩ := ihleft _ hleft
      obtain ⟨term, hterm, halike'⟩ := ihright _ hright
      exact ⟨_, .and hbefore hterm, .and halike halike'⟩
  | or _ _ ihleft ihright =>
      simp (disch := simp) only [sameTokens_append, sameTokens_cons] at hsame
      obtain ⟨left, hleft, _, ⟨right, hright, rfl⟩, rfl⟩ := hsame
      obtain ⟨before, hbefore, halike⟩ := ihleft _ hleft
      obtain ⟨term, hterm, halike'⟩ := ihright _ hright
      exact ⟨_, .or hbefore hterm, .or halike halike'⟩

theorem carriesOver_names : CarriesOver (CommaList IsName) SameNames :=
  carriesOver_commaList carriesOver_isName

theorem carriesOver_isWanted : CarriesOver IsWanted (Option.Rel SameNames) := by
  intro tokens others columns h hsame
  cases h with
  | all =>
      simp (disch := simp) only [List.forall₂_nil_right_iff, sameTokens_cons] at hsame
      obtain ⟨_, rfl, rfl⟩ := hsame
      exact ⟨none, .all, .none⟩
  | columns list =>
      obtain ⟨other, hother, halike⟩ := carriesOver_names _ _ _ list hsame
      exact ⟨some other, .columns hother, .some halike⟩

theorem carriesOver_isFilter : CarriesOver IsFilter (Option.Rel Condition.Alike) := by
  intro tokens others condition h hsame
  cases h with
  | none =>
      obtain rfl := List.forall₂_nil_right_iff.mp hsame
      exact ⟨none, .none, .none⟩
  | condition filter =>
      simp (disch := simp) only [sameTokens_cons] at hsame
      obtain ⟨_, hrest, rfl⟩ := hsame
      obtain ⟨other, hother, halike⟩ := carriesOver_isCondition .condition _ _ _ filter hrest
      exact ⟨some other, .condition hother, .some halike⟩

theorem carriesOver_isColumns : CarriesOver IsColumns SameNames := by
  intro tokens others columns h hsame
  cases h with
  | none =>
      obtain rfl := List.forall₂_nil_right_iff.mp hsame
      exact ⟨[], .none, .nil⟩
  | columns list =>
      obtain ⟨inner, hinner, rfl⟩ := sameTokens_inParens.mp hsame
      obtain ⟨other, hother, halike⟩ := carriesOver_names _ _ _ list hinner
      exact ⟨other, .columns hother, halike⟩

theorem carriesOver_body : CarriesOver Body Command.Alike := by
  intro tokens others command h hsame
  cases h with
  | use database =>
      simp (disch := simp) only [List.forall₂_nil_right_iff, sameTokens_cons,
        sameTokens_cons_name] at hsame
      obtain ⟨_, ⟨other, _, hname, rfl, rfl⟩, rfl⟩ := hsame
      exact ⟨_, .use other, .use hname⟩
  | createDatabase database =>
      simp (disch := simp) only [List.forall₂_nil_right_iff, sameTokens_cons,
        sameTokens_cons_name] at hsame
      obtain ⟨_, ⟨_, ⟨other, _, hname, rfl, rfl⟩, rfl⟩, rfl⟩ := hsame
      exact ⟨_, .createDatabase other, .createDatabase hname⟩
  | createTable table list =>
      simp (disch := simp) only [List.cons_append, List.nil_append, sameTokens_cons,
        sameTokens_cons_name] at hsame
      obtain ⟨_, ⟨_, ⟨other, _, hname, hrest, rfl⟩, rfl⟩, rfl⟩ := hsame
      obtain ⟨columns, hcolumns, halike⟩ := carriesOver_isColumns _ _ _ list hrest
      exact ⟨_, .createTable other hcolumns, .change (.createTable hname halike)⟩
  | dropDatabase database =>
      simp (disch := simp) only [List.forall₂_nil_right_iff, sameTokens_cons,
        sameTokens_cons_name] at hsame
      obtain ⟨_, ⟨_, ⟨other, _, hname, rfl, rfl⟩, rfl⟩, rfl⟩ := hsame
      exact ⟨_, .dropDatabase other, .dropDatabase hname⟩
  | dropTable table =>
      simp (disch := simp) only [List.forall₂_nil_right_iff, sameTokens_cons,
        sameTokens_cons_name] at hsame
      obtain ⟨_, ⟨_, ⟨other, _, hname, rfl, rfl⟩, rfl⟩, rfl⟩ := hsame
      exact ⟨_, .dropTable other, .change (.dropTable hname)⟩
  | addColumn table column =>
      simp (disch := simp) only [List.forall₂_nil_right_iff, sameTokens_cons,
        sameTokens_cons_name] at hsame
      obtain ⟨_, ⟨_, ⟨other, _, htable, ⟨_, ⟨name, _, hname, rfl, rfl⟩, rfl⟩, rfl⟩, rfl⟩, rfl⟩ :=
        hsame
      exact ⟨_, .addColumn other name, .change (.addColumn htable hname)⟩
  | dropColumn table column =>
      simp (disch := simp) only [List.forall₂_nil_right_iff, sameTokens_cons,
        sameTokens_cons_name] at hsame
      obtain ⟨_, ⟨_, ⟨other, _, htable, ⟨_, ⟨name, _, hname, rfl, rfl⟩, rfl⟩, rfl⟩, rfl⟩, rfl⟩ :=
        hsame
      exact ⟨_, .dropColumn other name, .change (.dropColumn htable hname)⟩
  | insert table list =>
      simp (disch := simp) only [List.cons_append, List.nil_append, sameTokens_cons,
        sameTokens_cons_name, sameTokens_inParens] at hsame
      obtain ⟨_, ⟨_, ⟨other, _, hname, ⟨_, ⟨inner, hinner, rfl⟩, rfl⟩, rfl⟩, rfl⟩, rfl⟩ := hsame
      obtain ⟨values, hvalues, halike⟩ :=
        carriesOver_commaList carriesOver_isLiteral _ _ _ list hinner
      rw [List.forall₂_eq_eq_eq] at halike
      exact ⟨_, .insert other hvalues, .change (halike ▸ .insert hname _)⟩
  | select table list filtered =>
      simp (disch := simp) only [List.cons_append, List.nil_append, List.append_assoc,
        sameTokens_append, sameTokens_cons, sameTokens_cons_name] at hsame
      obtain ⟨_, ⟨left, hleft, _, ⟨_, ⟨other, right, hname, hright, rfl⟩, rfl⟩, rfl⟩, rfl⟩ := hsame
      obtain ⟨columns, hcolumns, hwanted⟩ := carriesOver_isWanted _ _ _ list hleft
      obtain ⟨condition, hcondition, hfilter⟩ := carriesOver_isFilter _ _ _ filtered hright
      have hbody := Body.select other hcolumns hcondition
      exact ⟨_, by simpa using hbody, .query (.select ⟨hname, hwanted, hfilter⟩)⟩
  | update table assigned filtered =>
      simp (disch := simp) only [List.cons_append, List.nil_append, sameTokens_append,
        sameTokens_cons, sameTokens_cons_name] at hsame
      obtain ⟨_, ⟨other, _, hname, ⟨_, ⟨left, hleft, _, ⟨right, hright, rfl⟩, rfl⟩, rfl⟩, rfl⟩,
        rfl⟩ := hsame
      obtain ⟨assignments, hassignments, hassigned⟩ :=
        carriesOver_commaList carriesOver_isAssignment _ _ _ assigned hleft
      obtain ⟨condition, hcondition, halike⟩ :=
        carriesOver_isCondition .condition _ _ _ filtered hright
      have hbody := Body.update other hassignments hcondition
      exact ⟨_, by simpa using hbody, .change (.update hname hassigned halike)⟩
  | delete table filtered =>
      simp (disch := simp) only [List.cons_append, List.nil_append, sameTokens_cons,
        sameTokens_cons_name] at hsame
      obtain ⟨_, ⟨_, ⟨other, _, hname, ⟨_, hrest, rfl⟩, rfl⟩, rfl⟩, rfl⟩ := hsame
      obtain ⟨condition, hcondition, halike⟩ :=
        carriesOver_isCondition .condition _ _ _ filtered hrest
      exact ⟨_, .delete other hcondition, .change (.delete hname halike)⟩
  | join leftTable rightTable leftColumn rightColumn =>
      simp (disch := simp) only [List.forall₂_nil_right_iff, sameTokens_cons,
        sameTokens_cons_name] at hsame
      obtain ⟨_, ⟨left, _, hleft, ⟨_, ⟨right, _, hright, ⟨_, ⟨column, _, hcolumn, ⟨_, ⟨column', _,
        hcolumn', rfl, rfl⟩, rfl⟩, rfl⟩, rfl⟩, rfl⟩, rfl⟩, rfl⟩, rfl⟩ := hsame
      exact ⟨_, .join left right column column',
        .query (.join ⟨hleft, hright, hcolumn, hcolumn'⟩)⟩

theorem carriesOver_sentence : CarriesOver Sentence Command.Alike := by
  rintro _ others command ⟨phrase, hphrase, rfl⟩ hsame
  simp (disch := simp) only [sameTokens_append, sameTokens_cons,
    List.forall₂_nil_right_iff] at hsame
  obtain ⟨left, hleft, _, ⟨_, rfl, rfl⟩, rfl⟩ := hsame
  obtain ⟨other, hother, halike⟩ := carriesOver_body _ _ _ hphrase hleft
  exact ⟨other, ⟨left, hother, rfl⟩, halike⟩

theorem SameTokens.symm (h : SameTokens others tokens) : SameTokens tokens others :=
  (h.imp fun _ _ => Token.Alike.symm).flip

end Grammar

/-! ## Errors that are the same but for the spelling of names -/

/-- The same error about the same name, however that is spelled. Where a line is no command, the
reason for it may differ. -/
inductive Error.Alike : Error → Error → Prop where
  | scan (fault other : ScanError) : Alike (.scan fault) (.scan other)
  | parse (fault other : ParseError) : Alike (.parse fault) (.parse other)
  | noDatabaseSelected : Alike .noDatabaseSelected .noDatabaseSelected
  | unknownDatabase {name other : String} (same : Name.Same name other) :
      Alike (.unknownDatabase name) (.unknownDatabase other)
  | unknownTable {name other : String} (same : Name.Same name other) :
      Alike (.unknownTable name) (.unknownTable other)
  | unknownColumn {name other : String} (same : Name.Same name other) :
      Alike (.unknownColumn name) (.unknownColumn other)
  | databaseExists {name other : String} (same : Name.Same name other) :
      Alike (.databaseExists name) (.databaseExists other)
  | tableExists {name other : String} (same : Name.Same name other) :
      Alike (.tableExists name) (.tableExists other)
  | columnExists {name other : String} (same : Name.Same name other) :
      Alike (.columnExists name) (.columnExists other)
  | identityColumn : Alike .identityColumn .identityColumn
  | valueCount (expected found : Nat) :
      Alike (.valueCount expected found) (.valueCount expected found)
  | storage (fault : StorageFault) : Alike (.storage fault) (.storage fault)

namespace Command

open Grammar (SameTokens carriesOver_sentence)

theorem read_parallel {tokens others : List Token} (h : SameTokens tokens others) :
    Parallel (fun _ _ => True) Alike (Command.read tokens) (Command.read others) := by
  have hread {first second : List Token} (h : SameTokens first second) {command : Command}
      (hsecond : Command.read second = .ok command) :
      ∃ other, Command.read first = .ok other ∧ Alike other command := by
    obtain ⟨other, hother, halike⟩ := carriesOver_sentence _ _ _ (read_eq_ok_iff.mp hsecond) h
    exact ⟨other, read_eq_ok_iff.mpr hother, halike⟩
  cases hsecond : Command.read others with
  | ok command =>
      obtain ⟨other, hother, halike⟩ := hread h hsecond
      rw [hother]
      exact .ok halike
  | error fault =>
      cases hfirst : Command.read tokens with
      | error other => exact .error trivial
      | ok command =>
          obtain ⟨other, hother, -⟩ := hread h.symm hfirst
          rw [hsecond] at hother
          cases hother

/-- A line is the same command in other letters, or no command in either. -/
theorem ofLine_parallel {line other : String} (h : Token.Recased line.toList other.toList) :
    Parallel Error.Alike Alike (ofLine line) (ofLine other) := by
  have hscan := h.scanChars
  unfold ofLine Token.scan
  generalize Token.scanChars line.toList = scanned at hscan
  generalize Token.scanChars other.toList = scanned' at hscan
  cases hscan with
  | error => exact .error (.scan _ _)
  | @ok tokens others hsame =>
      have hread := read_parallel hsame
      simp only
      generalize Command.read tokens = found at hread
      generalize Command.read others = found' at hread
      rcases hread with _ | halike
      · exact .error (.parse _ _)
      · exact .ok halike

end Command

end Rowbase
