import StylesheetBuild.Path.Basic

/-!
# The order of paths

Paths are told apart and ordered by their components, so spellings that differ in repeated slashes
or `.` segments name the same path. The root comes first, then `.`, then `..`, then names in the
order of their characters.
-/

namespace StylesheetBuild

namespace Component

def rank : Component → Nat
  | root => 0
  | current => 1
  | parent => 2
  | name _ => 3

def nameText : Component → String
  | name s => s
  | _ => ""

instance : Ord Component where
  compare := compareLex (compareOn rank) (compareOn nameText)

theorem compare_eq (a b : Component) :
    compare a b = compareLex (compareOn rank) (compareOn nameText) a b := rfl

instance : Std.TransOrd Component :=
  inferInstanceAs (Std.TransCmp (compareLex (compareOn rank) (compareOn nameText)))

instance : Std.LawfulEqOrd Component where
  eq_of_compare {a b} h := by
    rw [compare_eq, compareLex_eq_eq] at h
    obtain ⟨hRank, hName⟩ := h
    have hr : rank a = rank b := Std.LawfulEqOrd.eq_of_compare hRank
    have hn : nameText a = nameText b := Std.LawfulEqOrd.eq_of_compare hName
    cases a <;> cases b <;> simp_all [rank, nameText]

end Component

namespace Path

/-- What paths are compared by. -/
abbrev Key := List Component

def key (p : Path) : Key :=
  p.components

/-- The same path, however spelled. -/
def same (p q : Path) : Bool :=
  p.key == q.key

end Path

end StylesheetBuild
