import Rowbase.Json.Read
import Rowbase.Json.Write
import Rowbase.Proofs.Lexemes

/-!
# Written values read back

A value made of texts, whole numbers, arrays and objects is read back from its lines, whatever
characters its texts hold and however deep it is nested.
-/

namespace Rowbase.Json

/-! ## Texts -/

theorem hexDigit?_digitChar {n : Nat} (h : n < 16) : hexDigit? (Nat.digitChar n) = some n := by
  revert n
  decide

theorem codeUnit?_shortUnit {unit : Nat} (h : unit < 256) :
    codeUnit? '0' '0' (Nat.digitChar (unit / 16)) (Nat.digitChar (unit % 16)) = some unit := by
  have hzero : hexDigit? '0' = some 0 := by decide
  have hhigh := hexDigit?_digitChar (n := unit / 16) (by omega)
  have hlow := hexDigit?_digitChar (n := unit % 16) (by omega)
  simp only [codeUnit?, hzero, hhigh, hlow, Option.bind_eq_bind, Option.bind_some]
  simp
  omega

theorem units_letter {letter c : Char} (hletter : letter ≠ 'u') (h : escape? letter = some c)
    (rest : List Char) :
    units ('\\' :: letter :: rest) =
      (units rest).map fun found => (c.toNat :: found.1, found.2) := by
  rw [units]
  · rw [h]
    cases units rest <;> rfl
  · intro _ _ _ _ _ heq
    exact absurd heq hletter

theorem units_plain {c : Char} (hquote : c ≠ '"') (hbackslash : c ≠ '\\')
    (hcontrol : 0x20 ≤ c.toNat) (rest : List Char) :
    units (c :: rest) = (units rest).map fun found => (c.toNat :: found.1, found.2) := by
  rw [units]
  · simp only [hcontrol, guard, if_true]
    cases units rest <;> rfl
  · exact hquote
  · exact fun _ _ _ _ _ heq => absurd heq hbackslash
  · exact fun _ _ heq => absurd heq hbackslash

/-- A character is taken back from the way it stands in a text. -/
theorem units_escaped (c : Char) (rest : List Char) :
    units (escaped c ++ rest) = (units rest).map fun found => (c.toNat :: found.1, found.2) := by
  unfold escaped
  split
  · exact units_letter (by decide) rfl rest
  · exact units_letter (by decide) rfl rest
  · exact units_letter (by decide) rfl rest
  · exact units_letter (by decide) rfl rest
  · exact units_letter (by decide) rfl rest
  · exact units_letter (by decide) rfl rest
  · exact units_letter (by decide) rfl rest
  next hquote hbackslash _ _ _ _ _ =>
    split
    next hcontrol =>
      simp only [shortUnit, List.cons_append, List.nil_append]
      rw [units, codeUnit?_shortUnit (by omega)]
      cases units rest <;> rfl
    next hplain => exact units_plain hquote hbackslash (by omega) rest

theorem units_flatMap_escaped (content rest : List Char) :
    units (content.flatMap escaped ++ '"' :: rest) = some (content.map Char.toNat, rest) := by
  induction content with
  | nil => rfl
  | cons c content ih =>
      rw [List.flatMap_cons, List.append_assoc, units_escaped, ih]
      rfl

/-- No character is half of a surrogate pair. -/
theorem isHigh_isLow_toNat (c : Char) : isHigh c.toNat = false ∧ isLow c.toNat = false := by
  have hvalid := c.valid
  simp only [UInt32.isValidChar, Nat.isValidChar, Char.toNat_val] at hvalid
  simp only [isHigh, isLow, Bool.and_eq_false_iff, decide_eq_false_iff_not]
  omega

theorem characters?_toNat (content : List Char) :
    characters? (content.map Char.toNat) = some content := by
  induction content with
  | nil => rfl
  | cons c content ih =>
      obtain ⟨hhigh, hlow⟩ := isHigh_isLow_toNat c
      cases content with
      | nil => simp [characters?, hhigh, hlow]
      | cons next content =>
          rw [List.map_cons] at ih
          simp [characters?, hhigh, hlow, ih]

/-- A text is read back behind its opening quote. -/
theorem content_flatMap_escaped (text : String) (rest : List Char) :
    content (text.toList.flatMap escaped ++ '"' :: rest) = some (some text, rest) := by
  simp [content, units_flatMap_escaped, characters?_toNat]

/-! ## Numbers -/

/-- What may follow a value. -/
def Ends (rest : List Char) : Prop :=
  ∀ c, rest.head? = some c → c = ',' ∨ c = '\n'

theorem Ends.stops_isDigit {rest : List Char} (h : Ends rest) :
    Token.Stops Char.isDigit rest := by
  intro c hc
  rcases h c hc with rfl | rfl
  · decide
  · decide

theorem digits_append {run rest : List Char} (hne : run ≠ []) (hrun : ∀ c ∈ run, c.isDigit)
    (h : Ends rest) : digits (run ++ rest) = some (run, rest) := by
  have hstops := h.stops_isDigit
  simp [digits, hstops.takeWhile_append hrun, hstops.dropWhile_append hrun, hne]

theorem head?_toDigits_append (n : Nat) (rest : List Char) :
    (Nat.toDigits 10 n ++ rest).head? = (Nat.toDigits 10 n).head? :=
  List.head?_append_of_ne_nil _ Nat.toDigits_ne_nil

/-- Only zero is written with a zero in front. -/
theorem head?_toDigits_ne {n : Nat} (h : n ≠ 0) : (Nat.toDigits 10 n).head? ≠ some '0' := by
  induction n using Nat.strongRecOn with
  | ind n ih =>
      by_cases hlt : n < 10
      · rw [Nat.toDigits_of_lt_base hlt, List.head?_cons]
        intro hdigit
        have hzero : Nat.digitChar n = Nat.digitChar 0 := Option.some.inj hdigit
        have hvalue := hexDigit?_digitChar (n := n) (by omega)
        rw [hzero, hexDigit?_digitChar (by decide)] at hvalue
        exact h (Option.some.inj hvalue).symm
      · rw [Nat.toDigits_of_base_le (by decide) (by omega), head?_toDigits_append]
        exact ih (n / 10) (by omega) (by omega)

theorem whole_toDigits (n : Nat) {rest : List Char} (h : Ends rest) :
    whole (Nat.toDigits 10 n ++ rest) = some (Nat.toDigits 10 n, rest) := by
  by_cases hzero : n = 0
  · rw [hzero, Nat.toDigits_zero]
    rfl
  · have hdigits : ∀ c ∈ Nat.toDigits 10 n, c.isDigit :=
      fun c hc => Nat.isDigit_of_mem_toDigits (by decide) (by decide) hc
    rw [whole]
    · exact digits_append Nat.toDigits_ne_nil hdigits h
    · intro tail htail
      apply head?_toDigits_ne hzero
      rw [← head?_toDigits_append n rest, htail, List.head?_cons]

theorem fraction_of_ends {rest : List Char} (h : Ends rest) : fraction rest = some ([], rest) := by
  rw [fraction]
  rintro tail rfl
  rcases h '.' rfl with hc | hc
  · exact absurd hc (by decide)
  · exact absurd hc (by decide)

theorem exponent_of_ends {rest : List Char} (h : Ends rest) : exponent rest = some ([], rest) := by
  cases rest with
  | nil => rfl
  | cons mark rest =>
      rcases h mark rfl with rfl | rfl
      · rfl
      · rfl

/-- A whole number is read back. -/
theorem numeral_toString (n : Nat) {rest : List Char} (h : Ends rest) :
    numeral ((toString n).toList ++ rest) = some (toString n, rest) := by
  have hminus : ∀ tail, Nat.toDigits 10 n ++ rest ≠ '-' :: tail := by
    intro tail htail
    have hhead : (Nat.toDigits 10 n).head? = some '-' := by
      rw [← head?_toDigits_append n rest, htail, List.head?_cons]
    have hdigit := Nat.isDigit_of_mem_toDigits (b := 10) (n := n) (by decide) (by decide)
      (List.mem_of_mem_head? hhead)
    exact absurd hdigit (by decide)
  have htext : String.ofList (Nat.toDigits 10 n) = toString n := by
    rw [← String.toList_inj, String.toList_ofList]
    exact Nat.toList_repr.symm
  have hchars : (toString n).toList = Nat.toDigits 10 n := Nat.toList_repr
  unfold numeral
  rw [hchars]
  simp only [whole_toDigits n h, fraction_of_ends h, exponent_of_ends h, Option.bind_eq_bind,
    Option.bind_some, List.nil_append, List.append_nil, htext]
  rfl

/-! ## Blanks -/

theorem skip_newLine (depth : Nat) (line : List Char) :
    skip (newLine depth ++ line) = skip line := by
  have hspaces : ∀ c ∈ newLine depth, isSpace c := by
    intro c hc
    rcases List.mem_cons.mp hc with rfl | hc
    · decide
    · rw [List.eq_of_mem_replicate hc]
      decide
  exact List.dropWhile_append_of_pos hspaces

theorem skip_of_head {line : List Char} (h : ∀ c, line.head? = some c → isSpace c = false) :
    skip line = line :=
  Token.Stops.dropWhile_eq_self h

/-! ## Brackets -/

/-- A text that starts neither with a blank nor with a closing bracket. -/
def Starts (text : List Char) : Prop :=
  ∃ c rest, text = c :: rest ∧ isSpace c = false ∧ c ≠ ']' ∧ c ≠ '}'

/-- A bracket that closes. -/
def Closes (close : Char) : Prop :=
  close = ']' ∨ close = '}'

/-- A way of writing items that a reader takes back, behind blanks or not. -/
structure Inverse {α : Type} (item : Reader α) (write : α → List Char) (items : List α) :
    Prop where
  blanks : ∀ line, item line = item (skip line)
  starts : ∀ value ∈ items, Starts (write value)
  takes : ∀ value ∈ items, ∀ rest, Ends rest → item (write value ++ rest) = some (value, rest)

theorem ends_newLine (depth : Nat) (rest : List Char) : Ends (newLine depth ++ rest) := by
  intro c hc
  cases hc
  exact .inr rfl

theorem ends_comma (rest : List Char) : Ends (',' :: rest) := by
  intro c hc
  cases hc
  exact .inl rfl

theorem Inverse.tail {α : Type} {item : Reader α} {write : α → List Char} {first : α}
    {others : List α} (h : Inverse item write (first :: others)) :
    Inverse item write others :=
  ⟨h.blanks, fun value hvalue => h.starts value (.tail _ hvalue),
    fun value hvalue => h.takes value (.tail _ hvalue)⟩

/-- The first item of a sequence may stand on a new line. -/
theorem sequence_newLine {α : Type} {item : Reader α}
    (hblanks : ∀ line, item line = item (skip line)) (close : Char) (most depth : Nat)
    (line : List Char) :
    sequence item close most (newLine depth ++ line) = sequence item close most line := by
  cases most with
  | zero => rfl
  | succ most => rw [sequence, sequence, hblanks, skip_newLine, ← hblanks]

/-- The lines of the items after the first. -/
def followingLines {α : Type} (write : α → List Char) (depth : Nat) (others : List α) :
    List Char :=
  others.flatMap fun value => ',' :: newLine depth ++ write value

/-- Items that are written each on a line of its own are taken back. -/
theorem sequence_lines {α : Type} {item : Reader α} {write : α → List Char} {close : Char}
    (hclose : Closes close) {first : α} {others : List α}
    (h : Inverse item write (first :: others)) (inner outer : Nat) {most : Nat}
    (hmost : others.length < most) (rest : List Char) :
    sequence item close most
        (write first ++ (followingLines write inner others ++ (newLine outer ++ close :: rest))) =
      some (first :: others, rest) := by
  have hskipClose : skip (close :: rest) = close :: rest := by
    apply skip_of_head
    rcases hclose with rfl | rfl <;> simp [isSpace]
  have hcomma : ',' ≠ close := by
    rcases hclose with rfl | rfl <;> decide
  induction others generalizing first most with
  | nil =>
      obtain ⟨most, rfl⟩ := Nat.exists_eq_succ_of_ne_zero (Nat.ne_zero_of_lt hmost)
      have hitem := h.takes first (.head _) _ (ends_newLine outer (close :: rest))
      simp [sequence, followingLines, hitem, skip_newLine, hskipClose]
  | cons next others ih =>
      obtain ⟨most, rfl⟩ := Nat.exists_eq_succ_of_ne_zero (Nat.ne_zero_of_lt hmost)
      have hrest : followingLines write inner (next :: others) ++ (newLine outer ++ close :: rest) =
          ',' :: (newLine inner ++ (write next ++
            (followingLines write inner others ++ (newLine outer ++ close :: rest)))) := by
        simp [followingLines]
      have hitem (line : List Char) := h.takes first (.head _) (',' :: line) (ends_comma line)
      have hskip (line : List Char) : skip (',' :: line) = ',' :: line :=
        skip_of_head (by simp [isSpace])
      have hothers := ih h.tail (Nat.lt_of_succ_lt_succ hmost)
      rw [hrest, sequence, hitem]
      simp [hskip, hcomma, sequence_newLine h.blanks, hothers]

/-- Items in brackets are taken back behind their opening bracket. -/
theorem bracketed_lines {α : Type} {item : Reader α} {write : α → List Char} {close : Char}
    (hclose : Closes close) {first : α} {others : List α}
    (h : Inverse item write (first :: others)) (inner outer : Nat) {most : Nat}
    (hmost : others.length < most) (rest : List Char) :
    bracketed item close most (newLine inner ++
        (write first ++ (followingLines write inner others ++ (newLine outer ++ close :: rest)))) =
      some (first :: others, rest) := by
  obtain ⟨c, text, hwrite, hspace, hbracket, hbrace⟩ := h.starts first (.head _)
  have hc : c ≠ close := by
    rcases hclose with rfl | rfl
    · exact hbracket
    · exact hbrace
  have hsequence := sequence_lines hclose h inner outer hmost rest
  rw [hwrite, List.cons_append] at hsequence ⊢
  have hskip (line : List Char) : skip (c :: line) = c :: line :=
    skip_of_head (by simpa using hspace)
  rw [bracketed, skip_newLine, hskip]
  simp only [hc, if_false, hsequence]

theorem length_le_followingLines {α : Type} (write : α → List Char) (depth : Nat)
    (others : List α) : others.length ≤ (followingLines write depth others).length := by
  induction others with
  | nil => simp
  | cons next others ih =>
      simp only [followingLines, List.flatMap_cons, List.length_append, List.length_cons] at ih ⊢
      omega

theorem length_write_le {α : Type} {write : α → List Char} {depth : Nat} {others : List α}
    {value : α} (h : value ∈ others) :
    (write value).length ≤ (followingLines write depth others).length := by
  induction others with
  | nil => simp at h
  | cons next others ih =>
      simp only [followingLines, List.flatMap_cons, List.length_append, List.length_cons] at ih ⊢
      rcases List.mem_cons.mp h with rfl | hmem
      · omega
      · have hother := ih hmem
        omega

/-- No item is longer than all of them together. -/
theorem length_lines_le {α : Type} (write : α → List Char) (depth : Nat) (first : α)
    (others : List α) : ∀ value ∈ first :: others,
      (write value).length ≤ (write first).length + (followingLines write depth others).length := by
  intro value hvalue
  rcases List.mem_cons.mp hvalue with rfl | hmem
  · exact Nat.le_add_right _ _
  · exact Nat.le_add_left_of_le (length_write_le hmem)

/-! ## Values -/

/-- The values that documents are made of. -/
inductive Storable : Json → Prop where
  | text (content : String) : Storable (.text content)
  | number (n : Nat) : Storable (.number (toString n))
  | array {items : List Json} (each : ∀ item ∈ items, Storable item) : Storable (.array items)
  | object {members : List (String × Json)} (each : ∀ member ∈ members, Storable member.2) :
      Storable (.object members)

/-- A member as it is read, before its key is known to be readable. -/
def keyed (member : String × Json) : Option String × Json :=
  (some member.1, member.2)

/-- A member on its line. -/
def memberLine (depth : Nat) (member : Option String × Json) : List Char :=
  quoted (member.1.getD "") ++ ':' :: ' ' :: lines depth member.2

theorem itemLines_eq (depth : Nat) (items : List Json) :
    itemLines depth items = followingLines (lines depth) depth items := by
  induction items with
  | nil => rfl
  | cons item items ih => simp [itemLines, followingLines, ih]

theorem memberLines_eq (depth : Nat) (members : List (String × Json)) :
    memberLines depth members =
      followingLines (memberLine depth) depth (members.map keyed) := by
  induction members with
  | nil => rfl
  | cons member members ih =>
      obtain ⟨key, value⟩ := member
      simp only [memberLines, ih]
      simp [followingLines, memberLine, keyed]

theorem lines_array_cons (depth : Nat) (first : Json) (others : List Json) :
    lines depth (.array (first :: others)) =
      '[' :: (newLine (depth + 1) ++ (lines (depth + 1) first ++
        (followingLines (lines (depth + 1)) (depth + 1) others ++ (newLine depth ++ [']'])))) := by
  simp [lines, itemLines_eq]

theorem lines_object_cons (depth : Nat) (first : String × Json)
    (others : List (String × Json)) :
    lines depth (.object (first :: others)) =
      '{' :: (newLine (depth + 1) ++ (memberLine (depth + 1) (keyed first) ++
        (followingLines (memberLine (depth + 1)) (depth + 1) (others.map keyed) ++
          (newLine depth ++ ['}'])))) := by
  obtain ⟨key, value⟩ := first
  simp [lines, memberLines_eq, memberLine, keyed]

theorem exists_toString_eq_cons (n : Nat) :
    ∃ c rest, (toString n).toList = c :: rest ∧ c.isDigit := by
  have hchars : (toString n).toList = Nat.toDigits 10 n := Nat.toList_repr
  obtain ⟨c, rest, hcons⟩ := List.exists_cons_of_ne_nil (Nat.toDigits_ne_nil (b := 10) (n := n))
  refine ⟨c, rest, hchars.trans hcons, ?_⟩
  exact Nat.isDigit_of_mem_toDigits (b := 10) (n := n) (by decide) (by decide) (by simp [hcons])

theorem starts_lines {json : Json} (h : Storable json) (depth : Nat) :
    Starts (lines depth json) := by
  cases h with
  | text content => exact ⟨'"', _, by rw [lines, quoted, List.cons_append], by decide⟩
  | number n =>
      obtain ⟨c, rest, hchars, hdigit⟩ := exists_toString_eq_cons n
      refine ⟨c, rest, hchars, ?_, ?_, ?_⟩
      · by_contra hspace
        simp only [isSpace, Bool.not_eq_false, Bool.or_eq_true, decide_eq_true_eq] at hspace
        rcases hspace with ((rfl | rfl) | rfl) | rfl <;> exact absurd hdigit (by decide)
      · rintro rfl
        exact absurd hdigit (by decide)
      · rintro rfl
        exact absurd hdigit (by decide)
  | @array items _ =>
      cases items with
      | nil => exact ⟨'[', _, by rw [lines], by decide⟩
      | cons first others => exact ⟨'[', _, lines_array_cons depth first others, by decide⟩
  | @object members _ =>
      cases members with
      | nil => exact ⟨'{', _, by rw [lines], by decide⟩
      | cons first others => exact ⟨'{', _, lines_object_cons depth first others, by decide⟩

theorem skip_skip (line : List Char) : skip (skip line) = skip line :=
  (Token.stops_dropWhile isSpace line).dropWhile_eq_self

theorem valueWithin_skip (most fuel : Nat) (line : List Char) :
    valueWithin most fuel line = valueWithin most fuel (skip line) := by
  cases fuel with
  | zero => rfl
  | succ fuel => rw [valueWithin, valueWithin, skip_skip]

theorem skip_append_of_starts {text : List Char} (h : Starts text) (rest : List Char) :
    skip (text ++ rest) = text ++ rest := by
  obtain ⟨c, tail, rfl, hspace, -⟩ := h
  exact skip_of_head (by simpa using hspace)

theorem member_lines {value : Reader Json} {member : String × Json} {depth : Nat}
    {rest : List Char} (hblanks : ∀ line, value line = value (skip line))
    (hstarts : Starts (lines depth member.2))
    (hvalue : value (lines depth member.2 ++ rest) = some (member.2, rest)) :
    Json.member value (memberLine depth (keyed member) ++ rest) = some (keyed member, rest) := by
  obtain ⟨key, json⟩ := member
  have hline : memberLine depth (keyed (key, json)) ++ rest =
      '"' :: (key.toList.flatMap escaped ++ '"' :: ':' :: ' ' :: (lines depth json ++ rest)) := by
    simp [memberLine, keyed, quoted]
  have hquote (line : List Char) : skip ('"' :: line) = '"' :: line :=
    skip_of_head (by simp [isSpace])
  have hcolon (line : List Char) : skip (':' :: line) = ':' :: line :=
    skip_of_head (by simp [isSpace])
  have hspace : skip (' ' :: (lines depth json ++ rest)) = lines depth json ++ rest := by
    have hblank : isSpace ' ' = true := by decide
    rw [skip, List.dropWhile_cons_of_pos hblank]
    exact skip_append_of_starts hstarts rest
  rw [hline, Json.member, hquote]
  simp only [content_flatMap_escaped, Option.bind_eq_bind, Option.bind_some, hcolon]
  rw [hblanks, hspace, hvalue]
  rfl

theorem member_skip (value : Reader Json) (line : List Char) :
    member value line = member value (skip line) := by
  rw [member, member, skip_skip]

/-- Members are taken back if their values are. -/
theorem inverse_members {value : Reader Json} {members : List (String × Json)} {depth : Nat}
    (hblanks : ∀ line, value line = value (skip line))
    (hstarts : ∀ member ∈ members, Starts (lines depth member.2))
    (hvalues : ∀ member ∈ members, ∀ rest, Ends rest →
      value (lines depth member.2 ++ rest) = some (member.2, rest)) :
    Inverse (Json.member value) (memberLine depth) (members.map keyed) := by
  refine ⟨member_skip value, ?_, ?_⟩
  · intro member _
    exact ⟨'"', _, by rw [memberLine, quoted, List.cons_append, List.cons_append], by decide⟩
  · intro entry hentry rest hrest
    obtain ⟨member, hmember, rfl⟩ := List.mem_map.mp hentry
    exact member_lines hblanks (hstarts member hmember) (hvalues member hmember rest hrest)

/-- The value of a member is no longer than its line. -/
theorem length_lines_le_memberLine (depth : Nat) (member : String × Json) :
    (lines depth member.2).length ≤ (memberLine depth (keyed member)).length := by
  simp [memberLine, keyed]
  omega

theorem ofMembers_keyed (members : List (String × Json)) :
    ofMembers (members.map keyed) = .object members := by
  rw [ofMembers, mapM_map_eq_some]
  exact fun _ _ => rfl

/-- The value is read back from its lines, whatever can follow them. -/
def Recovered (json : Json) : Prop :=
  ∀ (depth most fuel : Nat) (rest : List Char), (json.lines depth).length ≤ most →
    (json.lines depth).length < fuel → Ends rest →
      valueWithin most fuel (json.lines depth ++ rest) = some (json, rest)

theorem recovered_text (content : String) : Recovered (.text content) := by
  intro depth most fuel rest _ hfuel _
  obtain ⟨fuel, rfl⟩ := Nat.exists_eq_succ_of_ne_zero (Nat.ne_zero_of_lt hfuel)
  have hline : lines depth (.text content) ++ rest =
      '"' :: (content.toList.flatMap escaped ++ '"' :: rest) := by
    simp [lines, quoted]
  have hskip (line : List Char) : skip ('"' :: line) = '"' :: line :=
    skip_of_head (by simp [isSpace])
  rw [hline, valueWithin, hskip]
  simp only [content_flatMap_escaped, Option.map_some, ofContent]

theorem recovered_number (n : Nat) : Recovered (.number (toString n)) := by
  intro depth most fuel rest _ hfuel hrest
  obtain ⟨fuel, rfl⟩ := Nat.exists_eq_succ_of_ne_zero (Nat.ne_zero_of_lt hfuel)
  obtain ⟨c, tail, hchars, hdigit⟩ := exists_toString_eq_cons n
  have hfirst {d : Char} {line other : List Char} (heq : c :: line = d :: other) : d.isDigit :=
    (List.cons.inj heq).1 ▸ hdigit
  have hskip : skip ((toString n).toList ++ rest) = (toString n).toList ++ rest :=
    skip_append_of_starts (starts_lines (.number n) depth) rest
  have hnumeral := numeral_toString n hrest
  rw [lines, valueWithin, hskip]
  rw [hchars, List.cons_append] at hnumeral ⊢
  -- A digit starts none of the other values.
  split
  next heq => exact absurd (hfirst heq) (by decide)
  next heq => exact absurd (hfirst heq) (by decide)
  next heq => exact absurd (hfirst heq) (by decide)
  next heq => exact absurd (hfirst heq) (by decide)
  next heq => exact absurd (hfirst heq) (by decide)
  next heq => exact absurd (hfirst heq) (by decide)
  · rw [hnumeral]
    rfl

theorem recovered_array {items : List Json} (each : ∀ item ∈ items, Storable item)
    (ih : ∀ item ∈ items, Recovered item) : Recovered (.array items) := by
  intro depth most fuel rest hmost hfuel _
  obtain ⟨fuel, rfl⟩ := Nat.exists_eq_succ_of_ne_zero (Nat.ne_zero_of_lt hfuel)
  have hskip (line : List Char) : skip ('[' :: line) = '[' :: line :=
    skip_of_head (by simp [isSpace])
  cases items with
  | nil =>
      have hclose : skip (']' :: rest) = ']' :: rest := skip_of_head (by simp [isSpace])
      simp [lines, valueWithin, hskip, bracketed, hclose]
  | cons first others =>
      rw [lines_array_cons] at hmost hfuel ⊢
      have hwithin := length_lines_le (lines (depth + 1)) (depth + 1) first others
      have hothers := length_le_followingLines (lines (depth + 1)) (depth + 1) others
      simp only [List.length_cons, List.length_append] at hmost hfuel
      have hinverse : Inverse (valueWithin most fuel) (lines (depth + 1)) (first :: others) := by
        refine ⟨valueWithin_skip most fuel, ?_, ?_⟩
        · exact fun item hitem => starts_lines (each item hitem) (depth + 1)
        · intro item hitem rest hrest
          have hlength := hwithin item hitem
          exact ih item hitem (depth + 1) most fuel rest (by omega) (by omega) hrest
      have hcount : others.length < most := by omega
      have hitems := bracketed_lines (.inl rfl) hinverse (depth + 1) depth hcount rest
      simp only [List.cons_append, List.append_assoc, List.nil_append]
      rw [valueWithin, hskip]
      simp only [hitems, Option.map_some]

theorem recovered_object {members : List (String × Json)}
    (each : ∀ member ∈ members, Storable member.2)
    (ih : ∀ member ∈ members, Recovered member.2) : Recovered (.object members) := by
  intro depth most fuel rest hmost hfuel _
  obtain ⟨fuel, rfl⟩ := Nat.exists_eq_succ_of_ne_zero (Nat.ne_zero_of_lt hfuel)
  have hskip (line : List Char) : skip ('{' :: line) = '{' :: line :=
    skip_of_head (by simp [isSpace])
  cases members with
  | nil =>
      have hclose : skip ('}' :: rest) = '}' :: rest := skip_of_head (by simp [isSpace])
      simp [lines, valueWithin, hskip, bracketed, hclose, ofMembers]
  | cons first others =>
      rw [lines_object_cons] at hmost hfuel ⊢
      have hwithin := length_lines_le (memberLine (depth + 1)) (depth + 1) (keyed first)
        (others.map keyed)
      have hothers := length_le_followingLines (memberLine (depth + 1)) (depth + 1)
        (others.map keyed)
      simp only [List.length_cons, List.length_append, List.length_map] at hmost hfuel hothers
      rw [← List.map_cons] at hwithin
      have hinverse : Inverse (Json.member (valueWithin most fuel)) (memberLine (depth + 1))
          ((first :: others).map keyed) := by
        apply inverse_members (valueWithin_skip most fuel)
        · exact fun member hmember => starts_lines (each member hmember) (depth + 1)
        · intro member hmember rest hrest
          have hline := length_lines_le_memberLine (depth + 1) member
          have hlength := hwithin (keyed member) (List.mem_map_of_mem hmember)
          exact ih member hmember (depth + 1) most fuel rest (by omega) (by omega) hrest
      have hcount : (others.map keyed).length < most := by
        rw [List.length_map]
        omega
      have hitems := bracketed_lines (.inr rfl) hinverse (depth + 1) depth hcount rest
      rw [← List.map_cons] at hitems
      simp only [List.cons_append, List.append_assoc, List.nil_append]
      rw [valueWithin, hskip]
      simp only [hitems, Option.map_some, ofMembers_keyed]

/-- Every value that documents are made of is read back from its lines. -/
theorem recovered_of_storable {json : Json} (h : Storable json) : Recovered json := by
  induction h with
  | text content => exact recovered_text content
  | number n => exact recovered_number n
  | array each ih => exact recovered_array each ih
  | object each ih => exact recovered_object each ih

theorem read?_write {json : Json} (h : Storable json) : read? json.write = some json := by
  have hline : json.write.toList = json.lines 0 ++ [] := by
    rw [write, String.toList_ofList, List.append_nil]
  have hends : Ends [] := by
    intro c hc
    simp at hc
  have hvalue := recovered_of_storable h 0 (json.lines 0).length ((json.lines 0).length + 1) []
    (Nat.le_refl _) (Nat.lt_succ_self _) hends
  unfold read?
  simp only [hline, List.length_append, List.length_nil, Nat.add_zero, hvalue]
  rfl

end Rowbase.Json
