namespace AudioScope

/-!
# Windows over the latest elements

A window is a queue that is kept short: before an element is added to a full
window, the oldest one is dropped.  It is a queue of two lists, so that adding
an element takes constant time on average.  `Window.toList` gives its contents,
oldest first, and `Window.toList_push` says what adding does to them: of the old
contents and the new element, the latest `capacity` remain.
-/

/-- The latest `count` elements of a list, or all of them if there are fewer. -/
def latest
    {α : Type}
    (count : Nat)
    (elements : List α) :
    List α :=
  elements.drop (elements.length - count)

theorem latest_of_length_le
    {α : Type}
    {count : Nat}
    {elements : List α}
    (short : elements.length ≤ count) :
    latest count elements = elements := by
  simp [latest, Nat.sub_eq_zero_of_le short]

/-- As many elements remain as there are and as may be kept. -/
theorem length_latest
    {α : Type}
    (count : Nat)
    (elements : List α) :
    (latest count elements).length = min count elements.length := by
  simp only [latest, List.length_drop]
  omega

/-- What is forgotten early is forgotten in the end. -/
theorem latest_latest_append
    {α : Type}
    (count : Nat)
    (older newer : List α) :
    latest count (latest count older ++ newer) = latest count (older ++ newer) := by
  simp only [latest, List.length_append, List.length_drop]
  rw [List.drop_append, List.drop_append, List.drop_drop, List.length_drop]
  congr 2 <;> omega

/-- Enough newer elements leave nothing of the older ones. -/
theorem latest_append_of_le_length
    {α : Type}
    {count : Nat}
    (older : List α)
    {newer : List α}
    (enough : count ≤ newer.length) :
    latest count (older ++ newer) = latest count newer := by
  have past : (older ++ newer).length - count =
      older.length + (newer.length - count) := by
    rw [List.length_append, Nat.add_sub_assoc enough]
  rw [latest, past, List.drop_append, List.drop_eq_nil_of_le (Nat.le_add_right _ _),
    List.nil_append, Nat.add_sub_cancel_left, latest]

theorem map_latest
    {α β : Type}
    (image : α → β)
    (count : Nat)
    (elements : List α) :
    (latest count elements).map image = latest count (elements.map image) := by
  simp [latest]

/-- The latest elements of two lists of the same length belong together. -/
theorem zipWith_latest
    {α β γ : Type}
    (combine : α → β → γ)
    (count : Nat)
    {left : List α}
    {right : List β}
    (same : left.length = right.length) :
    (latest count left).zipWith combine (latest count right) =
      latest count (left.zipWith combine right) := by
  rw [latest, latest, latest, ← same, List.drop_zipWith, List.length_zipWith, ← same,
    Nat.min_self]

/-- A queue of elements, which the bounded way of adding keeps short. -/
structure Window (α : Type) where
  /-- The older elements, oldest first. -/
  older : List α
  /-- The newer elements, newest first. -/
  newer : List α
  size : Nat
  size_eq : size = older.length + newer.length
  deriving Repr

namespace Window

variable {α : Type}

/-- A window that has seen nothing. -/
def empty : Window α where
  older := []
  newer := []
  size := 0
  size_eq := rfl

/-- The contents of a window, oldest first. -/
def toList (window : Window α) : List α :=
  window.older ++ window.newer.reverse

theorem length_toList (window : Window α) : window.toList.length = window.size := by
  simp [toList, window.size_eq]

/-- Add an element behind the others. -/
def append
    (window : Window α)
    (element : α) :
    Window α where
  older := window.older
  newer := element :: window.newer
  size := window.size + 1
  size_eq := by
    rw [window.size_eq, List.length_cons, Nat.add_assoc]

@[simp]
theorem toList_append
    (window : Window α)
    (element : α) :
    (window.append element).toList = window.toList ++ [element] := by
  simp [append, toList]

/-- Drop the oldest element, if there is one. -/
def dropOldest (window : Window α) : Window α :=
  match window.older with
  | _ :: older =>
      { older
        newer := window.newer
        size := older.length + window.newer.length
        size_eq := rfl }
  | [] =>
      { older := window.newer.reverse.tail
        newer := []
        size := window.newer.reverse.tail.length
        size_eq := rfl }

@[simp]
theorem toList_dropOldest (window : Window α) :
    window.dropOldest.toList = window.toList.tail := by
  unfold dropOldest
  split
  · next shape => simp [toList, shape]
  · next shape => simp [toList, shape]

/-- Add an element; a window that is full loses its oldest one first. -/
def push
    (capacity : Nat)
    (window : Window α)
    (element : α) :
    Window α :=
  if window.size = capacity then
    window.dropOldest.append element
  else
    window.append element

/-- Of the old contents and the new element, the latest remain. -/
theorem toList_push
    {capacity : Nat}
    {window : Window α}
    (element : α)
    (positive : 0 < capacity)
    (bounded : window.size ≤ capacity) :
    (window.push capacity element).toList = latest capacity (window.toList ++ [element]) := by
  have counted := window.length_toList
  unfold push
  split
  · next full =>
    have one : window.toList.length + 1 - capacity = 1 := by omega
    have nonempty : 1 ≤ window.toList.length := by omega
    rw [toList_append, toList_dropOldest, latest, List.length_append, List.length_singleton,
      one, List.drop_append_of_le_length nonempty, List.drop_one]
  · next room =>
    have short : (window.toList ++ [element]).length ≤ capacity := by
      rw [List.length_append, List.length_singleton]
      omega
    rw [toList_append, latest_of_length_le short]

/-- A window that is not too long does not become so. -/
theorem size_push
    {capacity : Nat}
    {window : Window α}
    (element : α)
    (positive : 0 < capacity)
    (bounded : window.size ≤ capacity) :
    (window.push capacity element).size = min capacity (window.size + 1) := by
  rw [← length_toList, toList_push element positive bounded, length_latest,
    List.length_append, length_toList, List.length_singleton]

end Window

end AudioScope
