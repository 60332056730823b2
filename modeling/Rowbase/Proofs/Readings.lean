import Rowbase.Error
import Rowbase.Proofs.LexicalGrammar

/-!
# What commands mention

The names in a command are names that were read from its line, and its values have no control
character. Nor has the message where a line is no command. Each reader is followed through the
readers it is built from.
-/

namespace Rowbase

/-! ## Messages -/

namespace Text

/-- A plain text with plain texts around it. -/
theorem Plain.between {before text after : String} (h : Plain text)
    (hsides : ((before.toList ++ after.toList).all fun c => !Unicode.isControl c) = true) :
    Plain (before ++ text ++ after) := by
  rw [List.all_append, Bool.and_eq_true] at hsides
  have hstart := Token.plain_append (plain_of_all hsides.1) h
  exact Token.plain_append hstart (plain_of_all hsides.2)

end Text

theorem Keyword.plain_spelling (word : Keyword) : Text.Plain word.spelling := by
  apply Text.plain_of_all
  cases word <;> decide

theorem Symbol.plain_spelling (sign : Symbol) : Text.Plain sign.spelling := by
  apply Text.plain_of_all
  cases sign <;> decide

theorem plain_spellBoolean (value : Bool) : Text.Plain (spellBoolean value) := by
  apply Text.plain_of_all
  cases value <;> decide

theorem Token.Sound.plain {token : Token} (h : token.Sound) : Text.Plain token.spelling := by
  cases token with
  | keyword word => exact word.plain_spelling
  | symbol sign => exact sign.plain_spelling
  | boolean value => exact plain_spellBoolean value
  | name text => exact Token.Named.plain h
  | text content => exact h
  | integer text => exact h
  | decimal text => exact h

theorem Expectation.plain_keyword (word : Keyword) :
    Text.Plain (keyword word).words :=
  word.plain_spelling

theorem Expectation.plain_symbol (sign : Symbol) :
    Text.Plain (symbol sign).words :=
  sign.plain_spelling.between (by decide)

theorem Expectation.plain_name (noun : Noun) :
    Text.Plain (name noun).words := by
  apply Text.plain_of_all
  cases noun <;> decide

theorem Expectation.plain_comparator {column : String} (h : Text.Plain column) :
    Text.Plain (comparator column).words :=
  h.between (by decide)

theorem ParseError.plain_expected {expectation : Expectation}
    (h : Text.Plain expectation.words) {tokens : List Token}
    (htokens : ∀ token ∈ tokens, token.Sound) :
    Text.Plain (expected expectation tokens.head?).message := by
  have hfound : Text.Plain (describe tokens.head?) := by
    cases tokens with
    | nil => exact Text.plain_of_all (by decide)
    | cons token rest =>
        have htoken := (htokens token (.head _)).plain
        exact htoken.between (by decide)
  have hstart : Text.Plain ("expected " ++ expectation.words ++ ", found ") :=
    h.between (by decide)
  exact Token.plain_append hstart hfound

namespace Reader

variable {α β : Type} {good : α → Prop} {better : β → Prop}

/-- A value with the property and sound tokens behind it, or a fault with a plain message. -/
def Clean (good : α → Prop) : Except ParseError (α × List Token) → Prop
  | .ok (value, rest) => good value ∧ ∀ token ∈ rest, token.Sound
  | .error fault => Text.Plain fault.message

/-- From sound tokens a reader takes only values with the property and leaves sound tokens, and
if it fails the message is plain. -/
def Yields (reader : Reader α) (good : α → Prop) : Prop :=
  ∀ tokens, (∀ token ∈ tokens, token.Sound) → Clean good (reader tokens)

/-! ## Readers in general -/

theorem yields_pure {value : α} (h : good value) : Yields (pure value) good :=
  fun _ htokens => ⟨h, htokens⟩

theorem yields_error {fault : ParseError} (h : Text.Plain fault.message) :
    Yields (fun _ => .error fault) good :=
  fun _ _ => h

theorem Yields.bind {reader : Reader α} {next : α → Reader β} (h : reader.Yields good)
    (hnext : ∀ value, good value → (next value).Yields better) :
    Yields (reader >>= next) better := by
  intro tokens htokens
  have hfirst := h tokens htokens
  change Clean better (reader tokens >>= fun result => next result.1 result.2)
  cases hread : reader tokens with
  | error fault =>
      rw [hread] at hfirst
      exact hfirst
  | ok result =>
      rw [hread] at hfirst
      exact hnext result.1 hfirst.1 result.2 hfirst.2

theorem yields_ite {condition : Bool} {left right : Reader α} (hleft : left.Yields good)
    (hright : right.Yields good) : Yields (if condition then left else right) good := by
  cases condition with
  | true => exact hleft
  | false => exact hright

theorem yields_expected {expectation : Expectation} (h : Text.Plain expectation.words) :
    Yields (expected expectation) good :=
  fun _ htokens => ParseError.plain_expected h htokens

theorem yields_accept (token : Token) : Yields (accept token) fun _ => True := by
  intro tokens htokens
  cases tokens with
  | nil => exact ⟨trivial, htokens⟩
  | cons first others =>
      rw [accept]
      split
      · exact ⟨trivial, (List.forall_mem_cons.mp htokens).2⟩
      · exact ⟨trivial, htokens⟩

theorem yields_keyword (word : Keyword) : Yields (keyword word) fun _ => True :=
  (yields_accept _).bind fun _ _ =>
    yields_ite (yields_pure trivial) (yields_expected (Expectation.plain_keyword word))

theorem yields_symbol (sign : Symbol) : Yields (symbol sign) fun _ => True :=
  (yields_accept _).bind fun _ _ =>
    yields_ite (yields_pure trivial) (yields_expected (Expectation.plain_symbol sign))

theorem yields_name (noun : Noun) : Yields (name noun) Token.Named := by
  intro tokens htokens
  unfold name
  split
  · exact List.forall_mem_cons.mp htokens
  · exact yields_expected (Expectation.plain_name noun) _ htokens

theorem yields_literal : Yields literal fun value => Text.Plain value.field := by
  intro tokens htokens
  unfold literal
  split
  · exact List.forall_mem_cons.mp htokens
  next value rest => exact ⟨plain_spellBoolean value, (List.forall_mem_cons.mp htokens).2⟩
  · exact List.forall_mem_cons.mp htokens
  · exact List.forall_mem_cons.mp htokens
  · exact ⟨Text.plain_of_all (by decide), (List.forall_mem_cons.mp htokens).2⟩
  · exact yields_expected (Text.plain_of_all (by decide)) _ htokens

/-! ## Chains and lists -/

theorem yields_links (link? : Token → Option β) {item : Reader α} (h : item.Yields good)
    (most : Nat) :
    Yields (links link? item most) fun others => ∀ other ∈ others, good other.2 := by
  induction most with
  | zero => exact fun tokens htokens => ⟨by simp, htokens⟩
  | succ most ih =>
      intro tokens htokens
      cases tokens with
      | nil => exact ⟨by simp, htokens⟩
      | cons token tokens =>
          unfold links
          split
          · exact ⟨by simp, htokens⟩
          next link _ =>
            have hmore : Yields (do
                let next ← item
                let others ← links link? item most
                return (link, next) :: others) fun others => ∀ other ∈ others, good other.2 :=
              h.bind fun next hnext => ih.bind fun others hothers =>
                yields_pure (List.forall_mem_cons.mpr ⟨hnext, hothers⟩)
            exact hmore tokens (List.forall_mem_cons.mp htokens).2

theorem yields_chain (link? : Token → Option β) {item : Reader α} (h : item.Yields good) :
    Yields (chain link? item) fun items =>
      good items.1 ∧ ∀ other ∈ items.2, good other.2 := by
  have hothers : Yields (fun tokens => links link? item tokens.length tokens)
      fun others => ∀ other ∈ others, good other.2 :=
    fun tokens => yields_links link? h tokens.length tokens
  exact h.bind fun _ hfirst => hothers.bind fun _ hrest => yields_pure ⟨hfirst, hrest⟩

theorem yields_list {item : Reader α} (h : item.Yields good) :
    Yields (list item) fun items => ∀ item ∈ items, good item := by
  refine (yields_chain comma? h).bind fun items hitems => yields_pure ?_
  refine List.forall_mem_cons.mpr ⟨hitems.1, ?_⟩
  intro item hitem
  obtain ⟨other, hother, rfl⟩ := List.mem_map.mp hitem
  exact hitems.2 other hother

theorem yields_closedList {item : Reader α} (h : item.Yields good) :
    Yields (closedList item) fun items => ∀ item ∈ items, good item :=
  (yields_list h).bind fun _ hitems =>
    (yields_symbol _).bind fun _ _ => yields_pure hitems

/-! ## Conditions -/

theorem yields_comparator {column : String} (h : Text.Plain column) :
    Yields (comparator column) fun _ => True := by
  intro tokens htokens
  cases tokens with
  | nil => exact yields_expected (Expectation.plain_comparator h) _ htokens
  | cons token tokens =>
      rw [comparator]
      split
      · exact ⟨trivial, (List.forall_mem_cons.mp htokens).2⟩
      · exact yields_expected (Expectation.plain_comparator h) _ htokens

theorem yields_closing : Yields closing fun _ => True := by
  intro tokens htokens
  unfold closing
  split
  · exact ⟨trivial, (List.forall_mem_cons.mp htokens).2⟩
  · exact Text.plain_of_all (by decide)

theorem yields_term {inner : Reader Condition} (h : inner.Yields fun _ => True) :
    Yields (term inner) fun _ => True := by
  refine (yields_accept _).bind fun _ _ => yields_ite ?_ ?_
  · exact h.bind fun _ _ => yields_closing.bind fun _ _ => yields_pure trivial
  · refine (yields_name _).bind fun column hcolumn => ?_
    refine (yields_comparator hcolumn.plain).bind fun _ _ => ?_
    exact yields_literal.bind fun _ _ => yields_pure trivial

theorem yields_conditionWithin (depth : Nat) :
    Yields (conditionWithin depth) fun _ => True := by
  induction depth with
  | zero => exact yields_error (Text.plain_of_all (by decide))
  | succ depth ih =>
      exact (yields_chain _ (yields_term ih)).bind fun _ _ => yields_pure trivial

theorem yields_condition : Yields condition fun _ => True :=
  fun tokens => yields_conditionWithin (tokens.length + 1) tokens

theorem yields_whereCondition : Yields whereCondition fun _ => True :=
  (yields_keyword _).bind fun _ _ => yields_condition

/-! ## Commands -/

theorem yields_assignment :
    Yields assignment fun assignment => Text.Plain assignment.literal.field :=
  (yields_name _).bind fun _ _ => (yields_symbol _).bind fun _ _ =>
    yields_literal.bind fun _ hvalue => yields_pure hvalue

end Reader

/-- What holds of every change that is read from a line. -/
def Change.Sound : Change → Prop
  | .createTable table columns => Token.Named table ∧ ∀ column ∈ columns, Token.Named column
  | .dropTable table => Token.Named table
  | .addColumn table column | .dropColumn table column => Token.Named table ∧ Token.Named column
  | .insert table values => Token.Named table ∧ ∀ value ∈ values, Text.Plain value.field
  | .update table assignments _ =>
    Token.Named table ∧ ∀ assignment ∈ assignments, Text.Plain assignment.literal.field
  | .delete table _ => Token.Named table

/-- What holds of every command that is read from a line. -/
def Command.Sound : Command → Prop
  | .use database | .createDatabase database | .dropDatabase database => Token.Named database
  | .change made => made.Sound
  | .query _ => True

namespace Reader

theorem yields_create : Yields create Command.Sound := by
  refine (yields_accept _).bind fun _ _ => yields_ite ?_ ?_
  · exact (yields_name _).bind fun _ hname => yields_pure hname
  · refine (yields_accept _).bind fun _ _ =>
      yields_ite ?_ (yields_error (Text.plain_of_all (by decide)))
    refine (yields_name _).bind fun table htable => ?_
    refine (yields_accept _).bind fun _ _ => yields_ite ?_ ?_
    · exact (yields_closedList (yields_name _)).bind fun _ hcolumns =>
        yields_pure ⟨htable, hcolumns⟩
    · exact yields_pure ⟨htable, by simp⟩

theorem yields_drop : Yields drop Command.Sound := by
  refine (yields_accept _).bind fun _ _ => yields_ite ?_ ?_
  · exact (yields_name _).bind fun _ hname => yields_pure hname
  · refine (yields_accept _).bind fun _ _ =>
      yields_ite ?_ (yields_expected (Text.plain_of_all (by decide)))
    exact (yields_name _).bind fun _ hname => yields_pure hname

theorem yields_alter : Yields alter Change.Sound := by
  refine (yields_keyword _).bind fun _ _ => (yields_name _).bind fun table htable => ?_
  refine (yields_accept _).bind fun _ _ => yields_ite ?_ ?_
  · exact (yields_name _).bind fun _ hcolumn => yields_pure ⟨htable, hcolumn⟩
  · refine (yields_accept _).bind fun _ _ =>
      yields_ite ?_ (yields_expected (Text.plain_of_all (by decide)))
    exact (yields_name _).bind fun _ hcolumn => yields_pure ⟨htable, hcolumn⟩

theorem yields_insert : Yields insert Change.Sound := by
  refine (yields_keyword _).bind fun _ _ => (yields_name _).bind fun table htable => ?_
  refine (yields_keyword _).bind fun _ _ => (yields_symbol _).bind fun _ _ => ?_
  exact (yields_closedList yields_literal).bind fun _ hvalues => yields_pure ⟨htable, hvalues⟩

theorem yields_update : Yields update Change.Sound := by
  refine (yields_name _).bind fun table htable => (yields_keyword _).bind fun _ _ => ?_
  refine (yields_list yields_assignment).bind fun assignments hassignments => ?_
  exact yields_whereCondition.bind fun _ _ => yields_pure ⟨htable, hassignments⟩

theorem yields_delete : Yields delete Change.Sound := by
  refine (yields_keyword _).bind fun _ _ => (yields_name _).bind fun table htable => ?_
  exact yields_whereCondition.bind fun _ _ => yields_pure htable

theorem yields_wantedColumns : Yields wantedColumns fun _ => True := by
  refine (yields_accept _).bind fun _ _ => yields_ite (yields_pure trivial) ?_
  exact (yields_list (yields_name _)).bind fun _ _ => yields_pure trivial

theorem yields_select : Yields select fun _ => True := by
  refine yields_wantedColumns.bind fun _ _ => (yields_keyword _).bind fun _ _ => ?_
  refine (yields_name _).bind fun _ _ => (yields_accept _).bind fun _ _ => yields_ite ?_ ?_
  · exact yields_condition.bind fun _ _ => yields_pure trivial
  · exact yields_pure trivial

theorem yields_join : Yields join fun _ => True := by
  refine (yields_name _).bind fun _ _ => (yields_keyword _).bind fun _ _ => ?_
  refine (yields_name _).bind fun _ _ => (yields_keyword _).bind fun _ _ => ?_
  refine (yields_name _).bind fun _ _ => (yields_keyword _).bind fun _ _ => ?_
  exact (yields_name _).bind fun _ _ => yields_pure trivial

theorem yields_body (word : Keyword) : Yields (body word) Command.Sound := by
  unfold body
  split
  · exact (yields_name _).bind fun _ hname => yields_pure hname
  · exact yields_create
  · exact yields_drop
  · exact yields_alter.bind fun _ hchange => yields_pure hchange
  · exact yields_insert.bind fun _ hchange => yields_pure hchange
  · exact yields_select.bind fun _ _ => yields_pure trivial
  · exact yields_update.bind fun _ hchange => yields_pure hchange
  · exact yields_delete.bind fun _ hchange => yields_pure hchange
  · exact yields_join.bind fun _ _ => yields_pure trivial
  · refine yields_error ?_
    exact word.plain_spelling.between (by decide)

theorem yields_command : Yields command Command.Sound := by
  intro tokens htokens
  unfold command
  split
  · exact Text.plain_of_all (by decide)
  · refine Yields.bind (yields_body _) ?_ _ (List.forall_mem_cons.mp htokens).2
    exact fun _ hvalue => (yields_symbol _).bind fun _ _ => yields_pure hvalue
  next token rest _ =>
    exact (htokens token (.head _)).plain.between (by decide)

end Reader

namespace Command

variable {tokens : List Token} {command : Command}

theorem sound_of_read (htokens : ∀ token ∈ tokens, token.Sound)
    (h : Command.read tokens = .ok command) : command.Sound := by
  have hread := Reader.yields_command tokens htokens
  unfold Command.read at h
  split at h
  · simp at h
  next hcommand =>
    cases h
    rw [hcommand] at hread
    exact hread.1
  · simp at h

theorem plain_of_read {fault : ParseError} (htokens : ∀ token ∈ tokens, token.Sound)
    (h : Command.read tokens = .error fault) : Text.Plain fault.message := by
  have hread := Reader.yields_command tokens htokens
  unfold Command.read at h
  split at h
  next hfault =>
    cases h
    rw [hfault] at hread
    exact hread
  · simp at h
  next next rest hmore =>
    cases h
    rw [hmore] at hread
    exact (hread.2 next (.head _)).plain.between (by decide)

/-- Every command that is read from a line is sound. -/
theorem sound_of_ofLine {line : String} (h : Command.ofLine line = .ok command) :
    command.Sound := by
  unfold ofLine at h
  split at h
  · simp at h
  next tokens hscan =>
    split at h
    · simp at h
    next hread =>
      cases h
      exact sound_of_read (Token.sound_of_scanChars hscan) hread

end Command

end Rowbase
