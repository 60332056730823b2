import Rowbase.Proofs.LexicalGrammar
import Rowbase.Proofs.WrittenCommands

/-!
# Lines with blanks in them

Blanks end every token just as the end of the line does, and leave nothing behind. The parts of
a line with blanks between them are therefore read one by one, and the tokens of a line that are
written out again, with any blanks between them and any quotes around texts, are read as the
same tokens.
-/

namespace Rowbase.Token

open Unicode

variable {tokens : List Token} {token : Token} {lexeme : List Char}

/-! ## Blanks between two parts -/

theorem bounded_of_isBlank {c : Char} (h : isBlank c) (rest : List Char) : Bounded (c :: rest) := by
  refine bounded_cons (isWordChar_of_isBlank h) ?_ ?_ rest
  · rintro rfl
    exact absurd h (by decide)
  · rintro rfl
    exact absurd h (by decide)

theorem scanChars_append_of_blank {gap : List Char} (h : ∀ c ∈ gap, isBlank c)
    (line : List Char) : scanChars (gap ++ line) = scanChars line := by
  rw [← scanChars_dropWhile, List.dropWhile_append_of_pos h, scanChars_dropWhile]

/-- Whatever stands behind blanks is read as if it stood alone. -/
theorem scanChars_append_blanks {first gap : List Char} (h : scanChars first = .ok tokens)
    (hblank : ∀ c ∈ gap, isBlank c) (hsome : gap ≠ []) (second : List Char) :
    scanChars (first ++ gap ++ second) = (scanChars second).map (tokens ++ ·) := by
  have hbounded : Bounded (gap ++ second) := by
    cases gap with
    | nil => exact absurd rfl hsome
    | cons c rest => exact bounded_of_isBlank (hblank c (.head _)) _
  rw [List.append_assoc, scanChars_append hbounded h, scanChars_append_of_blank hblank]

/-- A line that can be read, blanks, and any line behind them: the tokens are those of the first
line and then those of the second, and a fault is the fault of the second line. -/
theorem scan_append_blanks {first gap : String} (h : scan first = .ok tokens)
    (hblank : ∀ c ∈ gap.toList, isBlank c) (hsome : gap ≠ "") (second : String) :
    scan (first ++ gap ++ second) = (scan second).map (tokens ++ ·) := by
  have hgap : gap.toList ≠ [] := mt String.toList_eq_nil_iff.mp hsome
  rw [scan, String.toList_append, String.toList_append]
  exact scanChars_append_blanks h hblank hgap second.toList

/-- A sign that blanks keep from the equals sign behind them, and from a fault further on. -/
theorem scan_append_blanks_of_comparison :
    scan "x >" = .ok [.name "x", .symbol .greater] ∧
      scan ("x >" ++ " \u2003" ++ "= 1") =
        .ok [.name "x", .symbol .greater, .symbol .assign, .integer "1"] ∧
      scan ("x >" ++ "\t" ++ "= 1.") = .error (.malformedNumber "1.") := by
  have hfirst : scan "x >" = .ok [.name "x", .symbol .greater] := by cbv
  have hsecond : scan "= 1" = .ok [.symbol .assign, .integer "1"] := by cbv
  have hfault : scan "= 1." = .error (.malformedNumber "1.") := by cbv
  have hwide : (" \u2003").toList.all isBlank := by decide
  have htab : ("\t").toList.all isBlank := by decide
  refine ⟨hfirst, ?_, ?_⟩
  · rw [scan_append_blanks hfirst (List.all_eq_true.mp hwide) (by decide), hsecond]
    rfl
  · rw [scan_append_blanks hfirst (List.all_eq_true.mp htab) (by decide), hfault]
    rfl

/-! ## Tokens written out again -/

/-- The ways to write a token out: a text between two quotes of a kind that it does not hold, and
every other token as it is spelled. -/
inductive WrittenAs : Token → List Char → Prop where
  | quoted {quote : Char} {content : String} (either : quote = '\'' ∨ quote = '"')
      (lacks : quote ∉ content.toList) :
      WrittenAs (.text content) (quote :: content.toList ++ [quote])
  | spelled {token : Token} (other : ∀ content, token ≠ .text content) :
      WrittenAs token token.spelling.toList

/-- The lines on which tokens are written out in their order, with blanks between any two. -/
inductive Spaced : List Token → List Char → Prop where
  | nil : Spaced [] []
  | cons {token : Token} {tokens : List Token} {written gap line : List Char}
      (first : WrittenAs token written) (blank : ∀ c ∈ gap, isBlank c)
      (apart : tokens ≠ [] → gap ≠ []) (rest : Spaced tokens line) :
      Spaced (token :: tokens) (written ++ gap ++ line)

/-- A token that is read from a line can be written out with the quotes that are chosen for it. -/
theorem writtenAs_written
    (h : ∀ content, token = .text content → quoteFor content ∉ content.toList) :
    WrittenAs token token.written := by
  cases token with
  | text content => exact .quoted (quoteFor_cases content) (h content rfl)
  | keyword word => exact .spelled (by simp)
  | name text => exact .spelled (by simp)
  | integer text => exact .spelled (by simp)
  | decimal text => exact .spelled (by simp)
  | symbol sign => exact .spelled (by simp)
  | boolean value => exact .spelled (by simp)

/-- Words are no texts in quotes. -/
theorem ofWord_ne_text (word : List Char) (content : String) : ofWord word ≠ .text content := by
  refine ofWord_induction (motive := (· ≠ .text content)) word ?_ ?_ ?_
  · simp
  · simp
  · simp

namespace Lexeme

theorem plain_of_text {content : String} (h : Lexeme lexeme (.text content)) :
    Text.Plain content := by
  cases h with
  | quoted either plain lacks => exact plain
  | word one said => exact absurd said (ofWord_ne_text _ _)

/-- A text that stood between quotes of one kind does not hold that quote. -/
theorem not_both_quotes {content : String} (h : Lexeme lexeme (.text content)) :
    ¬('\'' ∈ content.toList ∧ '"' ∈ content.toList) := by
  cases h with
  | quoted either plain lacks =>
      rintro ⟨hsingle, hdouble⟩
      rcases either with rfl | rfl
      · exact lacks hsingle
      · exact lacks hdouble
  | word one said => exact absurd said (ofWord_ne_text _ _)

/-- Every token but a text is read again from its spelling. -/
theorem spelled (h : Lexeme lexeme token) (hother : ∀ content, token ≠ .text content) :
    Lexeme token.spelling.toList token := by
  cases h with
  | symbol sign => exact .symbol sign
  | quoted => exact absurd rfl (hother _)
  | integer signed whole => exact .integer signed whole
  | decimal signed whole fraction => exact .decimal signed whole fraction
  | numbered whole one =>
      rw [spelling, String.toList_ofList]
      exact .numbered whole one
  | word one said =>
      rw [← said]
      refine ofWord_induction (motive := fun token => Lexeme token.spelling.toList token) lexeme
        lexeme_of_boolean lexeme_of_keyword fun hword => ?_
      rw [spelling, String.toList_ofList]
      exact .word one hword

/-- However a token of a line is written out, it is a lexeme of that token again. -/
theorem written (h : Lexeme lexeme token) {written : List Char}
    (hwritten : WrittenAs token written) : Lexeme written token := by
  cases hwritten with
  | quoted either lacks => exact .quoted either h.plain_of_text lacks
  | spelled other => exact h.spelled other

end Lexeme

/-- Lines on which lexemes of tokens are spaced out are read as these tokens. -/
theorem scanChars_of_spaced {line : List Char} (h : Spaced tokens line)
    (hlexemes : ∀ token ∈ tokens, ∃ lexeme, Lexeme lexeme token) :
    scanChars line = .ok tokens := by
  induction h with
  | nil => exact scanChars_eq_nil rfl
  | @cons token tokens written gap line first blank apart rest ih =>
      obtain ⟨⟨lexeme, hlexeme⟩, hrest⟩ := List.forall_mem_cons.mp hlexemes
      have hfirst := (hlexeme.written first).scanChars_eq
      by_cases hlast : gap = []
      · obtain rfl : tokens = [] := by
          by_contra hmore
          exact apart hmore hlast
        cases rest
        simpa [hlast] using hfirst
      · rw [scanChars_append_blanks hfirst blank hlast, ih hrest]
        rfl

/-- A line of tokens with a space behind each of them. -/
theorem spaced_line (h : ∀ token ∈ tokens, WrittenAs token token.written) :
    Spaced tokens (line tokens) := by
  induction tokens with
  | nil => exact .nil
  | cons token rest ih =>
      obtain ⟨hfirst, hrest⟩ := List.forall_mem_cons.mp h
      have hspace : ∀ c ∈ [' '], isBlank c := List.forall_mem_singleton.mpr (by decide)
      have hline := Spaced.cons hfirst hspace (by simp) (ih hrest)
      rw [List.append_assoc] at hline
      exact hline

/-- No text of a line that can be read holds both kinds of quote, so its tokens can be written out
again; and however that is done, the line that comes of it has the same tokens. -/
theorem scan_spaced {line : String} (h : scan line = .ok tokens) :
    (∀ content, .text content ∈ tokens → ¬('\'' ∈ content.toList ∧ '"' ∈ content.toList)) ∧
      Spaced tokens (write tokens).toList ∧
      ∀ other : String, Spaced tokens other.toList → scan other = .ok tokens := by
  have hlexemes := exists_lexeme_of_scanChars h
  have hquotes : ∀ content, .text content ∈ tokens →
      ¬('\'' ∈ content.toList ∧ '"' ∈ content.toList) := by
    intro content hmem
    obtain ⟨lexeme, hlexeme⟩ := hlexemes _ hmem
    exact hlexeme.not_both_quotes
  refine ⟨hquotes, ?_, fun other hother => scanChars_of_spaced hother hlexemes⟩
  rw [write, String.toList_ofList]
  apply spaced_line
  intro token hmem
  apply writtenAs_written
  rintro content rfl
  exact quoteFor_notMem (hquotes content hmem)

/-- `seleCt'a'<=2nd`, with blanks between all tokens and with other quotes. -/
theorem scan_spaced_of_squeezed :
    scan "seleCt'a'<=2nd" = .ok [.keyword .select, .text "a", .symbol .atMost, .name "2nd"] ∧
      scan "SELECT\t\"a\" \u3000<=\n2nd" =
        .ok [.keyword .select, .text "a", .symbol .atMost, .name "2nd"] := by
  have hscan : scan "seleCt'a'<=2nd" =
      .ok [.keyword .select, .text "a", .symbol .atMost, .name "2nd"] := by cbv
  have hchars : "SELECT\t\"a\" \u3000<=\n2nd".toList =
      Keyword.select.spelling.toList ++ ['\t'] ++ ('"' :: "a".toList ++ ['"'] ++ [' ', '\u3000'] ++
        (Symbol.atMost.spelling.toList ++ ['\n'] ++ ("2nd".toList ++ [] ++ []))) := by decide
  have hspaced : Spaced [.keyword .select, .text "a", .symbol .atMost, .name "2nd"]
      "SELECT\t\"a\" \u3000<=\n2nd".toList := by
    rw [hchars]
    refine .cons (.spelled (by simp)) (List.all_eq_true.mp (by decide)) (by simp) ?_
    refine .cons (.quoted (.inr rfl) (by decide)) (List.all_eq_true.mp (by decide)) (by simp) ?_
    refine .cons (.spelled (by simp)) (List.all_eq_true.mp (by decide)) (by simp) ?_
    exact .cons (.spelled (by simp)) (by simp) (by simp) .nil
  exact ⟨hscan, (scan_spaced hscan).2.2 _ hspaced⟩

end Rowbase.Token
