/-!
# Lists with what stands before
-/

namespace DotGraph

variable {α : Type}

/-- The elements of a list, each with the elements before it. -/
def withEarlier : List α → List (List α × α)
  | [] => []
  | a :: rest => ([], a) :: (withEarlier rest).map fun entry => (a :: entry.1, entry.2)

theorem withEarlier_append (first second : List α) :
    withEarlier (first ++ second) =
      withEarlier first ++ (withEarlier second).map fun entry => (first ++ entry.1, entry.2) := by
  induction first with
  | nil => simp [withEarlier]
  | cons a first ih => simp [withEarlier, ih]

theorem withEarlier_map {β : Type} (f : α → β) (list : List α) :
    withEarlier (list.map f) =
      (withEarlier list).map fun entry => (entry.1.map f, f entry.2) := by
  induction list with
  | nil => rfl
  | cons a list ih => simp [withEarlier, ih]

end DotGraph
