/-!
# Branch specs

A branch spec may carry decorations in front of the branch name: any run of stars and slashes.
-/

set_option autoImplicit false

namespace BuildSync.Ref

def isDecoration (c : Char) : Bool := c == '*' || c == '/'

/-- The branch name in a spec. A spec of decorations only names no branch and gives `""`. -/
def undecorated (ref : String) : String := String.ofList (ref.toList.dropWhile isDecoration)

theorem toList_undecorated (ref : String) :
    (undecorated ref).toList = ref.toList.dropWhile isDecoration := by
  simp [undecorated]

theorem dropWhile_dropWhile {α : Type} (p : α → Bool) (xs : List α) :
    (xs.dropWhile p).dropWhile p = xs.dropWhile p := by
  induction xs with
  | nil => rfl
  | cons x xs ih => by_cases h : p x = true <;> simp [h, ih]

theorem undecorated_idem (ref : String) : undecorated (undecorated ref) = undecorated ref := by
  simp [undecorated, dropWhile_dropWhile]

end BuildSync.Ref
