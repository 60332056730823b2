import Rowbase.Command.Read
import Rowbase.Proofs.Grammar
import Rowbase.Proofs.Outcomes

/-!
# Readers take the phrases of the grammar

A reader of commands succeeds exactly if a phrase of the grammar stands at the front, and then
it takes that phrase. Phrases that can go on, lists and conditions, are taken as far as they go.
-/

namespace Rowbase.Reader

open Grammar

variable {α β : Type} {tokens rest : List Token}

/-! ## Single tokens -/

theorem then_eq_ok_iff {reader : Reader α} {next : α → Reader β} {result : β} :
    (reader >>= next) tokens = .ok (result, rest) ↔
      ∃ value left, reader tokens = .ok (value, left) ∧ next value left = .ok (result, rest) :=
  bind_eq_ok_iff.trans Prod.exists

theorem return_eq_ok_iff {value result : α} :
    (pure value : Reader α) tokens = .ok (result, rest) ↔ value = result ∧ tokens = rest := by
  simp [pure, StateT.pure, Except.pure]

theorem expected_ne_ok {expectation : Expectation} {value : α} :
    ¬(expected expectation : Reader α) tokens = .ok (value, rest) := by
  simp [expected]

/-- Two ways to go on, of which the first needs a certain token. -/
theorem branch_eq_ok_iff {token : Token} {yes no : Reader α} {value : α} :
    (do if ← accept token then yes else no : Reader α) tokens = .ok (value, rest) ↔
      (∃ left, tokens = token :: left ∧ yes left = .ok (value, rest)) ∨
        (tokens.head? ≠ some token ∧ no tokens = .ok (value, rest)) := by
  rw [then_eq_ok_iff]
  cases tokens with
  | nil => simp [accept]
  | cons first others =>
      by_cases h : first = token
      · simp [accept, h]
      · simp [accept, h]

theorem keyword_eq_ok_iff {word : Keyword} {taken : Unit} :
    keyword word tokens = .ok (taken, rest) ↔ tokens = .keyword word :: rest := by
  rw [keyword, branch_eq_ok_iff]
  simp [return_eq_ok_iff, expected_ne_ok]

theorem symbol_eq_ok_iff {sign : Symbol} {taken : Unit} :
    symbol sign tokens = .ok (taken, rest) ↔ tokens = .symbol sign :: rest := by
  rw [symbol, branch_eq_ok_iff]
  simp [return_eq_ok_iff, expected_ne_ok]

theorem closing_eq_ok_iff {taken : Unit} :
    closing tokens = .ok (taken, rest) ↔ tokens = .symbol .closeParen :: rest := by
  unfold closing
  split
  · simp
  next hother => simpa using fun h => hother rest h

theorem name_eq_ok_iff {noun : Noun} {spelling : String} :
    name noun tokens = .ok (spelling, rest) ↔ tokens = .name spelling :: rest := by
  unfold name
  split
  · simp
  next hother => simpa [expected] using fun h => hother spelling rest h

theorem literal_eq_ok_iff {value : Literal} :
    literal tokens = .ok (value, rest) ↔ tokens = value.token :: rest := by
  unfold literal
  constructor
  · intro h
    split at h <;> cases h <;> rfl
  · rintro rfl
    cases value <;> rfl

theorem comparator?_eq_some_iff {token : Token} {value : Comparator} :
    Comparator.ofToken? token = some value ↔ token = value.token := by
  constructor
  · intro h
    unfold Comparator.ofToken? at h
    split at h <;> cases h <;> rfl
  · rintro rfl
    cases value <;> rfl

theorem comparator_eq_ok_iff {column : String} {value : Comparator} :
    comparator column tokens = .ok (value, rest) ↔ tokens = value.token :: rest := by
  cases tokens with
  | nil => simp [comparator, expected]
  | cons first others =>
      rw [comparator, List.cons.injEq, ← comparator?_eq_some_iff]
      cases Comparator.ofToken? first with
      | none => simp [expected]
      | some found => simp

/-! ## Items and what links them -/

/-- Links and items, one after the other. -/
inductive Links (link? : Token → Option β) (Item : List Token → α → Prop) :
    List Token → List (β × α) → Prop where
  | nil : Links link? Item [] []
  | cons {token : Token} {link : β} {first rest : List Token} {value : α}
      {others : List (β × α)} (joins : link? token = some link) (item : Item first value)
      (more : Links link? Item rest others) :
      Links link? Item (token :: first ++ rest) ((link, value) :: others)

/-- What stands next links nothing. -/
def Ends (link? : Token → Option β) (rest : List Token) : Prop :=
  ∀ token, rest.head? = some token → link? token = none

/-- The reader takes only phrases that have the given meaning. -/
def Sound (reader : Reader α) (Phrase : List Token → α → Prop) : Prop :=
  ∀ tokens value rest, reader tokens = .ok (value, rest) →
    ∃ phrase, Phrase phrase value ∧ tokens = phrase ++ rest

/-- The reader takes every phrase up to the given length, whatever follows it. -/
def CompleteTo (bound : Nat) (reader : Reader α) (Phrase : List Token → α → Prop) : Prop :=
  ∀ phrase value rest, phrase.length ≤ bound → Phrase phrase value →
    reader (phrase ++ rest) = .ok (value, rest)

variable {link? : Token → Option β} {item : Reader α} {Item : List Token → α → Prop}
  {bound most : Nat} {others : List (β × α)}

theorem Links.length_le {phrase : List Token} (h : Links link? Item phrase others) :
    others.length ≤ phrase.length := by
  induction h with
  | nil => exact Nat.le_refl _
  | cons _ _ _ ih =>
      simp only [List.length_cons, List.length_append, List.cons_append]
      omega

/-- Links are taken as far as they go, if there is time for every token. -/
theorem links_sound (hitem : Sound item Item) (hmost : tokens.length ≤ most)
    (h : links link? item most tokens = .ok (others, rest)) :
    ∃ phrase, Links link? Item phrase others ∧ tokens = phrase ++ rest ∧ Ends link? rest := by
  induction most generalizing tokens others with
  | zero =>
      obtain rfl := List.length_eq_zero_iff.mp (Nat.le_zero.mp hmost)
      cases h
      exact ⟨[], .nil, rfl, by simp [Ends]⟩
  | succ most ih =>
      cases tokens with
      | nil =>
          cases h
          exact ⟨[], .nil, rfl, by simp [Ends]⟩
      | cons token tokens =>
          unfold links at h
          split at h
          next hnone =>
            cases h
            refine ⟨[], .nil, rfl, ?_⟩
            intro first hfirst
            cases hfirst
            exact hnone
          next link hlink =>
            obtain ⟨⟨value, left⟩, hvalue, h⟩ := bind_eq_ok_iff.mp h
            obtain ⟨⟨more, last⟩, hmore, h⟩ := bind_eq_ok_iff.mp h
            cases h
            obtain ⟨first, hfirst, rfl⟩ := hitem _ _ _ hvalue
            have hleft : left.length ≤ most := by
              simp only [List.length_cons, List.length_append] at hmost
              omega
            obtain ⟨phrase, hphrase, rfl, hends⟩ := ih hleft hmore
            exact ⟨token :: first ++ phrase, .cons hlink hfirst hphrase, by simp, hends⟩

theorem links_complete {phrase : List Token} (hitem : CompleteTo bound item Item)
    (hbound : phrase.length ≤ bound) (h : Links link? Item phrase others)
    (hmost : others.length ≤ most) (hends : Ends link? rest) :
    links link? item most (phrase ++ rest) = .ok (others, rest) := by
  induction h generalizing most with
  | nil =>
      rw [List.nil_append]
      cases most with
      | zero => rfl
      | succ most =>
          cases rest with
          | nil => rfl
          | cons token rest => simp [links, hends token rfl]
  | cons joins first _ ih =>
      simp only [List.length_cons, List.length_append, List.cons_append] at hbound hmost
      obtain ⟨most, rfl⟩ := Nat.exists_eq_succ_of_ne_zero (n := most) (by omega)
      have hrest := ih (by omega) (Nat.le_of_succ_le_succ hmost)
      simp only [List.cons_append, List.append_assoc, links, joins]
      rw [hitem _ _ _ (by omega) first, ok_bind, hrest]
      rfl

theorem chain_sound (hitem : Sound item Item) {first : α}
    (h : chain link? item tokens = .ok ((first, others), rest)) :
    ∃ phrase more, Item phrase first ∧ Links link? Item more others ∧
      tokens = phrase ++ more ++ rest ∧ Ends link? rest := by
  obtain ⟨value, left, hvalue, h⟩ := then_eq_ok_iff.mp h
  obtain ⟨found, last, hfound, h⟩ := then_eq_ok_iff.mp h
  obtain ⟨hpair, rfl⟩ := return_eq_ok_iff.mp h
  cases hpair
  obtain ⟨phrase, hphrase, rfl⟩ := hitem _ _ _ hvalue
  obtain ⟨more, hmore, rfl, hends⟩ := links_sound hitem (Nat.le_refl _) hfound
  exact ⟨phrase, more, hphrase, hmore, by simp, hends⟩

theorem chain_complete {phrase more : List Token} {first : α}
    (hitem : CompleteTo bound item Item) (hbound : (phrase ++ more).length ≤ bound)
    (hfirst : Item phrase first) (hmore : Links link? Item more others)
    (hends : Ends link? rest) :
    chain link? item (phrase ++ more ++ rest) = .ok ((first, others), rest) := by
  rw [List.length_append] at hbound
  have hmost : others.length ≤ (more ++ rest).length := by
    rw [List.length_append]
    exact Nat.le_add_right_of_le hmore.length_le
  rw [List.append_assoc]
  refine then_eq_ok_iff.mpr ⟨first, more ++ rest, hitem _ _ _ (by omega) hfirst, ?_⟩
  refine then_eq_ok_iff.mpr ⟨others, rest, ?_, return_eq_ok_iff.mpr ⟨rfl, rfl⟩⟩
  exact links_complete hitem (by omega) hmore hmost hends

/-! ## Lists -/

/-- A comma does not stand next. -/
def NoComma (rest : List Token) : Prop :=
  rest.head? ≠ some (.symbol .comma)

theorem comma?_eq_some_iff {token : Token} {link : Unit} :
    comma? token = some link ↔ token = .symbol .comma := by
  unfold comma?
  split
  · simp
  next hother => simpa using hother

theorem ends_comma_iff : Ends comma? rest ↔ NoComma rest := by
  constructor
  · intro h hcomma
    have hnone := h _ hcomma
    simp [comma?] at hnone
  · intro h token htoken
    rw [Option.eq_none_iff_forall_ne_some]
    intro link hlink
    rw [comma?_eq_some_iff.mp hlink] at htoken
    exact h htoken

theorem commaList_of_links {first more : List Token} {value : α} {others : List (Unit × α)}
    (hfirst : Item first value) (hmore : Links comma? Item more others) :
    CommaList Item (first ++ more) (value :: others.map (·.2)) := by
  induction hmore generalizing first value with
  | nil =>
      rw [List.append_nil]
      exact .single hfirst
  | cons joins item _ ih =>
      rw [comma?_eq_some_iff.mp joins]
      exact .more hfirst (ih item)

theorem exists_links_of_commaList {values : List α} (h : CommaList Item tokens values) :
    ∃ first more value others, Item first value ∧ Links comma? Item more others ∧
      tokens = first ++ more ∧ values = value :: others.map (·.2) := by
  induction h with
  | single item => exact ⟨_, [], _, [], item, .nil, (List.append_nil _).symm, rfl⟩
  | more item _ ih =>
      obtain ⟨first, more, value, others, hfirst, hmore, rfl, rfl⟩ := ih
      exact ⟨_, _, _, ((), value) :: others, item, .cons rfl hfirst hmore, rfl, rfl⟩

/-- A list reader takes a list whose items its item reader takes. -/
theorem list_eq_ok_iff {values : List α} (hsound : Sound item Item)
    (hcomplete : ∀ bound, CompleteTo bound item Item) :
    list item tokens = .ok (values, rest) ↔
      ∃ phrase, CommaList Item phrase values ∧ tokens = phrase ++ rest ∧ NoComma rest := by
  constructor
  · intro h
    obtain ⟨⟨first, others⟩, left, hchain, h⟩ := then_eq_ok_iff.mp h
    obtain ⟨rfl, rfl⟩ := return_eq_ok_iff.mp h
    obtain ⟨phrase, more, hphrase, hmore, rfl, hends⟩ := chain_sound hsound hchain
    exact ⟨phrase ++ more, commaList_of_links hphrase hmore, rfl, ends_comma_iff.mp hends⟩
  · rintro ⟨phrase, hlist, rfl, hnext⟩
    obtain ⟨first, more, value, others, hfirst, hmore, rfl, rfl⟩ :=
      exists_links_of_commaList hlist
    have hchain := chain_complete (hcomplete _) (Nat.le_refl _) hfirst hmore
      (ends_comma_iff.mpr hnext)
    exact then_eq_ok_iff.mpr ⟨_, _, hchain, return_eq_ok_iff.mpr ⟨rfl, rfl⟩⟩

/-- A parenthesis ends a list. -/
theorem closedList_eq_ok_iff {values : List α} (hsound : Sound item Item)
    (hcomplete : ∀ bound, CompleteTo bound item Item) :
    closedList item tokens = .ok (values, rest) ↔
      ∃ phrase, CommaList Item phrase values ∧ tokens = phrase ++ .symbol .closeParen :: rest := by
  simp only [closedList, then_eq_ok_iff, list_eq_ok_iff hsound hcomplete, symbol_eq_ok_iff,
    return_eq_ok_iff]
  constructor
  · rintro ⟨items, left, ⟨phrase, hlist, rfl, -⟩, taken, last, rfl, rfl, rfl⟩
    exact ⟨phrase, hlist, rfl⟩
  · rintro ⟨phrase, hlist, rfl⟩
    exact ⟨values, _, ⟨phrase, hlist, rfl, by simp [NoComma]⟩, (), rest, rfl, rfl, rfl⟩

/-! ## Conditions -/

/-- The token of a joining word. -/
def Connective.token : Connective → Token
  | and => .keyword .and
  | or => .keyword .or

/-- No joining word stands next. -/
def NoConnective (rest : List Token) : Prop :=
  ∀ link : Connective, rest.head? ≠ some link.token

theorem noConnective_symbol (sign : Symbol) : NoConnective (.symbol sign :: rest) := by
  intro link
  cases link with
  | and => simp [Connective.token]
  | or => simp [Connective.token]

theorem connective?_eq_some_iff {token : Token} {link : Connective} :
    Connective.ofToken? token = some link ↔ token = link.token := by
  constructor
  · intro h
    unfold Connective.ofToken? at h
    split at h <;> cases h <;> rfl
  · rintro rfl
    cases link <;> rfl

theorem ends_connective_iff : Ends Connective.ofToken? rest ↔ NoConnective rest := by
  constructor
  · intro h link hlink
    have hnone := h _ hlink
    rw [connective?_eq_some_iff.mpr rfl] at hnone
    simp at hnone
  · intro h token htoken
    rw [Option.eq_none_iff_forall_ne_some]
    intro link hlink
    rw [connective?_eq_some_iff.mp hlink] at htoken
    exact h link htoken

/-- Conditions joined one by one to all before them. -/
def joinAll (first : Condition) (others : List (Connective × Condition)) : Condition :=
  others.foldl (fun left (link, right) => link.join left right) first

theorem isCondition_join {first more : List Token} {left right : Condition} (link : Connective)
    (before : IsCondition .condition first left) (term : IsCondition .term more right) :
    IsCondition .condition (first ++ link.token :: more) (link.join left right) := by
  cases link with
  | and => exact .and before term
  | or => exact .or before term

theorem isCondition_joinAll {first more : List Token} {left : Condition}
    {others : List (Connective × Condition)} (hfirst : IsCondition .condition first left)
    (hmore : Links Connective.ofToken? (IsCondition .term) more others) :
    IsCondition .condition (first ++ more) (joinAll left others) := by
  -- the grammar grows a condition on its right, the links give way on their left; what has been
  -- joined so far is therefore part of the induction
  induction hmore generalizing first left with
  | nil =>
      rw [List.append_nil]
      exact hfirst
  | @cons token link phrase rest value others joins item _ ih =>
      have happend : first ++ (token :: phrase ++ rest) = (first ++ token :: phrase) ++ rest := by
        simp
      rw [happend, connective?_eq_some_iff.mp joins]
      exact ih (isCondition_join link hfirst item)

theorem Links.concat {more phrase : List Token} {token : Token} {link : β} {value : α}
    (h : Links link? Item more others) (joins : link? token = some link)
    (item : Item phrase value) :
    Links link? Item (more ++ token :: phrase) (others ++ [(link, value)]) := by
  induction h with
  | nil =>
      have hlast : Links link? Item (token :: phrase ++ []) [(link, value)] :=
        .cons joins item .nil
      simpa using hlast
  | cons joins item _ ih => simpa using Links.cons joins item ih

/-- A condition is a first term and all that are joined to it. -/
def JoinedTerms (tokens : List Token) (condition : Condition) : Prop :=
  ∃ first more left others, IsCondition .term first left ∧
    Links Connective.ofToken? (IsCondition .term) more others ∧ tokens = first ++ more ∧
      condition = joinAll left others

theorem JoinedTerms.join {first more : List Token} {left right : Condition}
    (h : JoinedTerms first left) (link : Connective) (term : IsCondition .term more right) :
    JoinedTerms (first ++ link.token :: more) (link.join left right) := by
  obtain ⟨start, links, value, others, hstart, hlinks, rfl, rfl⟩ := h
  have hlink : Connective.ofToken? link.token = some link := connective?_eq_some_iff.mpr rfl
  have hconcat := hlinks.concat hlink term
  exact ⟨start, _, value, _, hstart, hconcat, by simp, by simp [joinAll]⟩

theorem joinedTerms_of_isCondition {condition : Condition}
    (h : IsCondition .condition tokens condition) : JoinedTerms tokens condition := by
  generalize hpart : Part.condition = part at h
  induction h with
  | comparison => cases hpart
  | grouped => cases hpart
  | single term => exact ⟨_, [], _, [], term, .nil, (List.append_nil _).symm, rfl⟩
  | and before term ih _ => exact (ih rfl).join .and term
  | or before term ih _ => exact (ih rfl).join .or term

/-- A term is a comparison, or a condition in parentheses. -/
theorem term_eq_ok_iff {inner : Reader Condition} {condition : Condition} :
    term inner tokens = .ok (condition, rest) ↔
      (∃ left, tokens = .symbol .openParen :: left ∧
        inner left = .ok (condition, .symbol .closeParen :: rest)) ∨
      ∃ column comparator literal, condition = .comparison column comparator literal ∧
        tokens = .name column :: comparator.token :: literal.token :: rest := by
  rw [term, branch_eq_ok_iff]
  simp only [then_eq_ok_iff, closing_eq_ok_iff, return_eq_ok_iff, name_eq_ok_iff,
    comparator_eq_ok_iff, literal_eq_ok_iff]
  constructor
  · rintro (⟨left, rfl, value, last, hinner, taken, final, rfl, rfl, rfl⟩ | ⟨-, h⟩)
    · exact .inl ⟨left, rfl, hinner⟩
    · obtain ⟨column, _, rfl, comparator, _, rfl, literal, _, rfl, rfl, rfl⟩ := h
      exact .inr ⟨column, comparator, literal, rfl, rfl⟩
  · rintro (⟨left, rfl, hinner⟩ | ⟨column, comparator, literal, rfl, rfl⟩)
    · exact .inl ⟨left, rfl, condition, _, hinner, (), rest, rfl, rfl, rfl⟩
    · exact .inr ⟨by simp, column, _, rfl, comparator, _, rfl, literal, rest, rfl, rfl, rfl⟩

theorem conditionWithin_sound {depth : Nat} {condition : Condition}
    (h : conditionWithin depth tokens = .ok (condition, rest)) :
    ∃ phrase, IsCondition .condition phrase condition ∧ tokens = phrase ++ rest ∧
      NoConnective rest := by
  induction depth generalizing tokens rest condition with
  | zero => simp [conditionWithin] at h
  | succ depth ih =>
      have hterm : Sound (term (conditionWithin depth)) (IsCondition .term) := by
        intro tokens value rest hread
        rcases term_eq_ok_iff.mp hread with ⟨left, rfl, hinner⟩ | ⟨_, _, _, rfl, rfl⟩
        · obtain ⟨phrase, hphrase, rfl, -⟩ := ih hinner
          exact ⟨_, .grouped hphrase, by simp [Command.inParens]⟩
        · exact ⟨_, .comparison .., rfl⟩
      obtain ⟨⟨first, others⟩, left, hchain, h⟩ := then_eq_ok_iff.mp h
      obtain ⟨rfl, rfl⟩ := return_eq_ok_iff.mp h
      obtain ⟨phrase, more, hphrase, hmore, rfl, hends⟩ := chain_sound hterm hchain
      exact ⟨_, isCondition_joinAll (.single hphrase) hmore, rfl, ends_connective_iff.mp hends⟩

/-- Each parenthesis needs one level more, and there are fewer levels than tokens. -/
theorem conditionWithin_complete {depth : Nat} {phrase : List Token} {condition : Condition}
    (h : IsCondition .condition phrase condition) (hdepth : phrase.length < depth)
    (hrest : NoConnective rest) :
    conditionWithin depth (phrase ++ rest) = .ok (condition, rest) := by
  induction depth generalizing phrase rest condition with
  | zero => exact absurd hdepth (Nat.not_lt_zero _)
  | succ depth ih =>
      have hterm : CompleteTo depth (term (conditionWithin depth)) (IsCondition .term) := by
        intro phrase value rest hlength hphrase
        rw [term_eq_ok_iff]
        cases hphrase with
        | comparison column comparator literal =>
            exact .inr ⟨column, comparator, literal, rfl, rfl⟩
        | @grouped tokens _ inner =>
            left
            refine ⟨tokens ++ .symbol .closeParen :: rest, by simp [Command.inParens], ?_⟩
            apply ih inner _ (noConnective_symbol _)
            simp only [Command.inParens, List.length_cons, List.length_append,
              List.cons_append] at hlength
            omega
      obtain ⟨first, more, left, others, hfirst, hmore, rfl, rfl⟩ :=
        joinedTerms_of_isCondition h
      have hchain := chain_complete hterm (Nat.le_of_lt_succ hdepth) hfirst hmore
        (ends_connective_iff.mpr hrest)
      exact then_eq_ok_iff.mpr ⟨_, _, hchain, return_eq_ok_iff.mpr ⟨rfl, rfl⟩⟩

/-- A condition reader takes a condition that no joining word could continue. -/
theorem condition_eq_ok_iff {value : Condition} :
    condition tokens = .ok (value, rest) ↔
      ∃ phrase, IsCondition .condition phrase value ∧ tokens = phrase ++ rest ∧
        NoConnective rest := by
  constructor
  · exact conditionWithin_sound
  · rintro ⟨phrase, hphrase, rfl, hrest⟩
    apply conditionWithin_complete hphrase _ hrest
    rw [List.length_append]
    omega

end Rowbase.Reader
