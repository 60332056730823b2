/-!
# Names

Databases, tables and attributes are found by name without regard to the case of ASCII letters. Each
keeps the spelling it was given; `Name.key` is the spelling under which it is found.
-/

namespace Rowbase.Name

/-- The name with its ASCII letters in lower case. -/
def key (name : String) : String :=
  name.map Char.toLower

/-- Two spellings name the same thing when their keys are equal. -/
def Same (a b : String) : Prop :=
  key a = key b

instance (a b : String) : Decidable (Same a b) :=
  inferInstanceAs (Decidable (key a = key b))

namespace Same

theorem refl (a : String) : Same a a := rfl

theorem symm {a b : String} (h : Same a b) : Same b a := Eq.symm h

theorem trans {a b c : String} (h : Same a b) (k : Same b c) : Same a c := Eq.trans h k

end Same

/-- The characters of a key. -/
theorem toList_key (name : String) : (key name).toList = name.toList.map Char.toLower :=
  String.toList_map

end Rowbase.Name
