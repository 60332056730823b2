import Rowbase.Proofs.Boundaries
import Rowbase.Proofs.LexicalGrammar
import Rowbase.Proofs.SimpleNames

/-!
# The case of letters

The scanner tells capitals from small letters nowhere but in the text of a name. A word in other
capitals is therefore the same reserved word or truth value, and a name in other capitals is a
name.
-/

namespace Rowbase

namespace Unicode

/-! ## Characters -/

/-- The capital letters of ASCII. -/
def capitals : List Char :=
  "ABCDEFGHIJKLMNOPQRSTUVWXYZ".toList

theorem mem_capitals {c : Char} (hlow : 65 ≤ c.toNat) (hhigh : c.toNat ≤ 90) : c ∈ capitals := by
  have hcode : c.toNat ∈ capitals.map Char.toNat := by
    have hcodes : capitals.map Char.toNat = List.range' 65 26 := by decide
    rw [hcodes, List.mem_range'_1]
    omega
  obtain ⟨capital, hmem, heq⟩ := List.mem_map.mp hcode
  exact Char.toNat_inj.mp heq ▸ hmem

/-- Only capital letters have a small letter other than themselves. -/
theorem toLower_eq_or_mem (c : Char) : c.toLower = c ∨ c ∈ capitals := by
  unfold Char.toLower
  split
  next hcapital =>
    have hlow := UInt32.le_iff_toNat_le.mp hcapital.1
    have hhigh := UInt32.le_iff_toNat_le.mp hcapital.2
    rw [Char.toNat_val] at hlow hhigh
    exact .inr (mem_capitals hlow hhigh)
  · exact .inl rfl

/-- What does not tell capitals from their small letters does not tell any letters from theirs. -/
theorem apply_toLower {α : Type} [DecidableEq α] (f : Char → α)
    (h : capitals.all fun c => f c.toLower = f c) (c : Char) : f c.toLower = f c := by
  rcases toLower_eq_or_mem c with heq | hmem
  · rw [heq]
  · exact of_decide_eq_true (List.all_eq_true.mp h c hmem)

@[simp] theorem isBlank_toLower (c : Char) : isBlank c.toLower = isBlank c :=
  apply_toLower isBlank (by decide) c

@[simp] theorem isDigit_toLower (c : Char) : c.toLower.isDigit = c.isDigit :=
  apply_toLower Char.isDigit (by decide) c

@[simp] theorem isWordStart_toLower (c : Char) : isWordStart c.toLower = isWordStart c :=
  apply_toLower isWordStart (by decide) c

@[simp] theorem isWordChar_toLower (c : Char) : isWordChar c.toLower = isWordChar c :=
  apply_toLower isWordChar (by decide) c

@[simp] theorem asciiUpper_toLower (c : Char) : asciiUpper c.toLower = asciiUpper c :=
  apply_toLower asciiUpper (by decide) c

theorem eq_of_toLower_eq {α : Type} {f : Char → α} (hf : ∀ c, f c.toLower = f c) {c d : Char}
    (h : c.toLower = d.toLower) : f c = f d := by
  rw [← hf c, h, hf]

end Unicode

namespace Token

open Unicode

/-! ## Words -/

/-- Runs of characters that are the same but for the case of their letters. -/
def SameLetters (first second : List Char) : Prop :=
  first.map Char.toLower = second.map Char.toLower

variable {first second : List Char}

theorem SameLetters.of_key_eq {name other : String} (h : Name.key name = Name.key other) :
    SameLetters name.toList other.toList := by
  rw [SameLetters, ← Name.toList_key, ← Name.toList_key, h]

theorem SameLetters.all_eq (h : SameLetters first second) {p : Char → Bool}
    (hp : ∀ c, p c.toLower = p c) : first.all p = second.all p := by
  have hall := congrArg (List.all · p) h
  simpa only [List.all_map, Function.comp_def, hp] using hall

theorem SameLetters.any_head?_eq (h : SameLetters first second) {p : Char → Bool}
    (hp : ∀ c, p c.toLower = p c) : first.head?.any p = second.head?.any p := by
  have hhead := congrArg (fun word => word.head?.any p) h
  simpa only [List.head?_map, Option.any_map, Function.comp_def, hp] using hhead

theorem SameLetters.flatMap_asciiUpper (h : SameLetters first second) :
    first.flatMap asciiUpper = second.flatMap asciiUpper := by
  have hupper := congrArg (List.flatMap asciiUpper) h
  simpa only [List.flatMap_map, asciiUpper_toLower] using hupper

/-- Words in other letters are the same reserved word or truth value, or they are names. -/
theorem SameLetters.ofWord_eq (h : SameLetters first second) :
    ofWord first = ofWord second ∨
      ofWord first = .name (String.ofList first) ∧
        ofWord second = .name (String.ofList second) := by
  unfold ofWord
  simp only [h.flatMap_asciiUpper]
  split
  · exact .inl rfl
  · split
    · exact .inl rfl
    · split
      · exact .inl rfl
      · exact .inr ⟨rfl, rfl⟩

theorem SameLetters.isOneWord_eq (h : SameLetters first second) :
    isOneWord first = isOneWord second := by
  rw [isOneWord, isOneWord, h.all_eq isWordChar_toLower, h.any_head?_eq (by simp)]

/-- A word that is no name is read as the same token in other letters. -/
theorem scanChars_of_sameLetters (h : SameLetters first second) (hword : isOneWord second)
    (hname : ∀ text, ofWord second ≠ .name text) : scanChars first = .ok [ofWord second] := by
  rcases h.ofWord_eq with heq | ⟨-, heq⟩
  · exact (Lexeme.word (h.isOneWord_eq.trans hword) heq).scanChars_eq
  · exact absurd heq (hname _)

/-! ## Names -/

theorem SameLetters.ofWord_eq_name (h : SameLetters first second) {text : String}
    (hname : ofWord second = .name text) : ofWord first = .name (String.ofList first) := by
  rcases h.ofWord_eq with heq | ⟨heq, -⟩
  · have hfirst := heq.trans hname
    rw [hfirst, ofList_of_ofWord_eq_name hfirst]
  · exact heq

/-- Digits are the same in other letters, and a word behind them is a word. -/
theorem SameLetters.exists_append {digits : String} {word : List Char} (whole : Digits digits)
    (one : isOneWord word) (h : SameLetters first (digits.toList ++ word)) :
    ∃ others rest, Digits others ∧ isOneWord rest ∧ first = others.toList ++ rest := by
  rw [SameLetters, List.map_append] at h
  obtain ⟨front, rest, rfl, hfront, hrest⟩ := List.map_eq_append_iff.mp h
  have hdigits : SameLetters front digits.toList := hfront
  have hword : SameLetters rest word := hrest
  refine ⟨String.ofList front, rest, ⟨?_, ?_⟩, hword.isOneWord_eq.trans one, ?_⟩
  · rintro hempty
    rw [String.ofList_eq_empty_iff] at hempty
    rw [hempty] at hfront
    exact whole.toList_ne_nil (List.map_eq_nil_iff.mp hfront.symm)
  · rw [String.toList_ofList, ← List.all_eq_true, hdigits.all_eq isDigit_toLower,
      List.all_eq_true]
    exact whole.all
  · rw [String.toList_ofList]

/-- A name in other letters is a name. -/
theorem Named.of_key_eq {text other : String} (h : Named text)
    (hkey : Name.key other = Name.key text) : Named other := by
  have hsame := SameLetters.of_key_eq hkey
  obtain ⟨-, ⟨one, said⟩ | ⟨digits, word, whole, one, htext⟩⟩ := h.lexeme.name_cases
  · have hother := hsame.ofWord_eq_name said
    rw [String.ofList_toList] at hother
    exact named_of_isOneWord (hsame.isOneWord_eq.trans one) hother
  · rw [htext] at hsame
    obtain ⟨others, rest, hdigits, hrest, hother⟩ := hsame.exists_append whole one
    exact named_of_numbered hdigits hrest hother

end Token

end Rowbase
