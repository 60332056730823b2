import Mathlib
import Rowbase.Condition.Compare

/-!
# Laws of comparison

Two texts are compared as numbers if both are numbers and by their code points otherwise, and one
order decides all the comparators. The order of three texts need not be transitive: "9" is below
"10" as a number and "10" below "1a" as a text, yet "9" is above "1a". Equality is, because a number
is equal to numbers only, so that equal fields are those of one `sortKey`. A field that is a number
is ordered with a literal that is one, and nothing else is ordered with a literal but texts.
-/

namespace Rowbase

variable {field other : String} {literal : Literal} {order : Ordering}

/-! ## The definitions -/

/-- A field is less than a literal, equal to it or greater, and the weak comparators tell two of
these from the third. -/
structure Ordered (field : String) (literal : Literal) : Prop where
  trichotomy : ∃! comparator, comparator ∈ [Comparator.less, .equal, .greater] ∧
    compareField field comparator literal = true
  atLeast : compareField field .atLeast literal =
    (compareField field .greater literal || compareField field .equal literal)
  atMost : compareField field .atMost literal =
    (compareField field .less literal || compareField field .equal literal)

/-- A field is on no side of a literal. -/
def Unordered (field : String) (literal : Literal) : Prop :=
  ∀ comparator ∈ [Comparator.less, .greater, .atMost, .atLeast],
    compareField field comparator literal = false

/-- A literal that is a number has an order with the fields that are numbers. -/
def OrderedIfNumbers (field : String) (literal : Literal) : Prop :=
  if (fieldNumber? field).isSome ∧ literal.number?.isSome then Ordered field literal
  else Unordered field literal ∧ compareField field .equal literal = false ∧
    compareField field .notEqual literal = true

/-- The comparator that says the same with the two sides exchanged. -/
def Comparator.mirrored : Comparator → Comparator
  | less => greater
  | greater => less
  | atMost => atLeast
  | atLeast => atMost
  | equal => equal
  | notEqual => notEqual
  | like => like

/-- The order of two texts. -/
def fieldOrder (field other : String) : Ordering :=
  (numericOrder? field other).getD (textOrder field other)

/-- What fields that are equal to each other share. -/
def sortKey (field : String) : ℤ ⊕ String :=
  match fieldNumber? field with
  | some x => .inl x.value
  | none => .inr field

/-! ## Orders that decide -/

/-- All comparators between a field and a literal are told from one order. -/
def Decides (order : Ordering) (field : String) (literal : Literal) : Prop :=
  ∀ comparator ≠ .like, compareField field comparator literal = comparator.holds order

namespace Comparator

theorem existsUnique_holds (order : Ordering) :
    ∃! comparator, comparator ∈ [less, equal, greater] ∧ comparator.holds order = true := by
  cases order
  case lt => exact ⟨less, by decide, by rintro (_ | _) <;> simp [holds]⟩
  case eq => exact ⟨equal, by decide, by rintro (_ | _) <;> simp [holds]⟩
  case gt => exact ⟨greater, by decide, by rintro (_ | _) <;> simp [holds]⟩

end Comparator

theorem Decides.ordered (h : Decides order field literal) : Ordered field literal where
  trichotomy := by
    refine (existsUnique_congr fun comparator => and_congr_right fun hmem => ?_).mpr
      (Comparator.existsUnique_holds order)
    rw [h comparator (by rintro rfl; simp at hmem)]
  atLeast := by
    rw [h .atLeast (by decide), h .greater (by decide), h .equal (by decide)]
    cases order <;> rfl
  atMost := by
    rw [h .atMost (by decide), h .less (by decide), h .equal (by decide)]
    cases order <;> rfl

theorem decides_text (field other : String) :
    Decides (fieldOrder field other) field (.text other) := by
  intro comparator hlike
  cases comparator with
  | like => exact absurd rfl hlike
  | _ => rfl

theorem compareField_numeral {numeral : String}
    (hliteral : literal ∈ [.integer numeral, .decimal numeral]) {comparator : Comparator}
    (hlike : comparator ≠ .like) :
    compareField field comparator literal =
      (numericOrder? field numeral).elim (comparator.holdsUnordered false) comparator.holds := by
  cases horder : numericOrder? field numeral <;> fin_cases hliteral
  all_goals
    cases comparator with
    | like => exact absurd rfl hlike
    | _ => simp [compareField, horder]

theorem numericOrder?_of_isSome (hfield : (fieldNumber? field).isSome)
    (hother : (fieldNumber? other).isSome) : ∃ order, numericOrder? field other = some order := by
  obtain ⟨x, hx⟩ := Option.isSome_iff_exists.mp hfield
  obtain ⟨y, hy⟩ := Option.isSome_iff_exists.mp hother
  exact ⟨x.compare y, by simp [numericOrder?, hx, hy]⟩

theorem numericOrder?_eq_none (h : ¬((fieldNumber? field).isSome ∧ (fieldNumber? other).isSome)) :
    numericOrder? field other = none := by
  rw [numericOrder?]
  split
  next hx hy => simp [hx, hy] at h
  · rfl

theorem orderedIfNumbers {numeral : String}
    (hliteral : literal ∈ [.integer numeral, .decimal numeral]) :
    OrderedIfNumbers field literal := by
  have hnumber : literal.number? = fieldNumber? numeral := by
    fin_cases hliteral <;> rfl
  rw [OrderedIfNumbers, hnumber]
  split_ifs with hboth
  · obtain ⟨order, horder⟩ := numericOrder?_of_isSome hboth.1 hboth.2
    have hdecides : Decides order field literal := fun comparator hlike => by
      rw [compareField_numeral hliteral hlike, horder, Option.elim_some]
    exact hdecides.ordered
  · have hnone := numericOrder?_eq_none hboth
    simp [Unordered, compareField_numeral hliteral, hnone, Comparator.holdsUnordered]

/-! ## Texts in each other's place -/

theorem Binary64.compare_swap (x y : Binary64) : (x.compare y).swap = y.compare x :=
  Std.OrientedOrd.eq_swap.symm

theorem textOrder_swap (field other : String) :
    (textOrder field other).swap = textOrder other field := by
  rcases lt_trichotomy field other with hlt | rfl | hgt
  · simp [textOrder, hlt, hlt.not_gt, hlt.ne']
  · simp [textOrder]
  · simp [textOrder, hgt, hgt.not_gt, hgt.ne']

theorem numericOrder?_swap (field other : String) :
    (numericOrder? field other).map Ordering.swap = numericOrder? other field := by
  rw [numericOrder?, numericOrder?]
  cases fieldNumber? field <;> cases fieldNumber? other <;> simp [Binary64.compare_swap]

theorem fieldOrder_swap (field other : String) :
    (fieldOrder field other).swap = fieldOrder other field := by
  rw [fieldOrder, fieldOrder, ← numericOrder?_swap field other, ← textOrder_swap field other]
  cases numericOrder? field other <;> rfl

theorem Comparator.holds_mirrored (comparator : Comparator) (order : Ordering) :
    comparator.mirrored.holds order.swap = comparator.holds order := by
  cases comparator <;> cases order <;> rfl

/-- Two texts in each other's place are compared by the mirrored comparator. -/
theorem compareField_mirrored {comparator : Comparator} (hlike : comparator ≠ .like) :
    compareField other comparator.mirrored (.text field) =
      compareField field comparator (.text other) := by
  have hmirrored : comparator.mirrored ≠ .like := by
    cases comparator <;> simp_all [Comparator.mirrored]
  rw [decides_text _ _ comparator hlike, decides_text _ _ comparator.mirrored hmirrored,
    ← fieldOrder_swap field other, Comparator.holds_mirrored]

/-! ## Equal texts -/

theorem textOrder_eq_iff : textOrder field other = .eq ↔ field = other := by
  rw [textOrder]
  split_ifs with hlt heq
  · simp [hlt.ne]
  · simp [heq]
  · simp [heq]

theorem ne_of_isSome_of_eq_none (hfield : (fieldNumber? field).isSome)
    (hother : fieldNumber? other = none) : field ≠ other := by
  rintro rfl
  simp [hother] at hfield

theorem fieldOrder_eq_iff : fieldOrder field other = .eq ↔ sortKey field = sortKey other := by
  rw [fieldOrder, numericOrder?, sortKey, sortKey]
  cases hx : fieldNumber? field <;> cases hy : fieldNumber? other
  case none.none => simpa using textOrder_eq_iff
  case none.some =>
    have hne := ne_of_isSome_of_eq_none (Option.isSome_of_mem hy) hx
    simpa [textOrder_eq_iff] using hne.symm
  case some.none =>
    have hne := ne_of_isSome_of_eq_none (Option.isSome_of_mem hx) hy
    simpa [textOrder_eq_iff] using hne
  case some.some => simp [Binary64.compare]

theorem equal_text_iff :
    compareField field .equal (.text other) = true ↔ sortKey field = sortKey other := by
  rw [decides_text field other .equal (by decide), ← fieldOrder_eq_iff]
  exact decide_eq_true_iff

theorem equivalence_equal_text :
    Equivalence fun field other : String => compareField field .equal (.text other) = true := by
  simp only [equal_text_iff]
  exact eq_equivalence.comap sortKey

/-- Unlike equality, the order does not carry over a text in the middle. -/
example : compareField "9" .less (.text "10") ∧ compareField "10" .less (.text "1a") ∧
    compareField "9" .greater (.text "1a") := by
  decide +kernel

/-! ## The laws -/

theorem notEqual_eq_not_equal (field : String) (literal : Literal) :
    compareField field .notEqual literal = !compareField field .equal literal := by
  cases literal with
  | null => rfl
  | boolean value => rfl
  | text content => simp [compareField, Comparator.holds]
  | integer numeral | decimal numeral =>
      simp only [compareField]
      cases numericOrder? field numeral <;> simp [Comparator.holds, Comparator.holdsUnordered]

/-- Inequality negates equality whatever is compared, texts are ordered and equal as an equivalence
relates them, a literal that is a number is ordered with numbers, and no other literal with
anything. -/
theorem laws_of_comparison :
    (∀ field literal,
      compareField field .notEqual literal = !compareField field .equal literal) ∧
    (∀ field content, Ordered field (.text content)) ∧
    (∀ field content,
      compareField field .less (.text content) = compareField content .greater (.text field) ∧
      compareField field .atMost (.text content) = compareField content .atLeast (.text field) ∧
      compareField field .equal (.text content) = compareField content .equal (.text field)) ∧
    (Equivalence fun field other : String => compareField field .equal (.text other) = true) ∧
    (∀ field numeral, OrderedIfNumbers field (.integer numeral) ∧
      OrderedIfNumbers field (.decimal numeral)) ∧
    (∀ field value, Unordered field .null ∧ Unordered field (.boolean value)) := by
  refine ⟨notEqual_eq_not_equal, fun field content => (decides_text field content).ordered, ?dual,
    equivalence_equal_text, ?numbers, ?words⟩
  case dual =>
    intro field content
    exact ⟨(compareField_mirrored (by decide)).symm, (compareField_mirrored (by decide)).symm,
      (compareField_mirrored (by decide)).symm⟩
  case numbers =>
    intro field numeral
    exact ⟨orderedIfNumbers List.mem_cons_self,
      orderedIfNumbers (List.mem_cons_of_mem _ List.mem_cons_self)⟩
  case words =>
    intro field value
    simp [Unordered, compareField, Comparator.holdsUnordered]

end Rowbase
