/-!
Sorting by insertion where not all comparisons have an answer, and those that have one need not be
consistent.

The longest start that ascends, or else strictly descends and is turned around, is taken as it is.
Every further element goes where a binary search puts it. What the elements come to depends on the
comparisons that are asked for, in this order; the first one without an answer ends the sorting.
-/

namespace CrmAutomation.Record.Insertion

variable {α : Type}

/-- How many elements go on as the second goes on from the first: each comes before the one in front
of it, or none does. -/
def runLength? (before? : α → α → Option Bool) (down : Bool) : α → List α → Option Nat
  | _, [] => some 0
  | a, b :: bs =>
    match before? b a with
    | none => none
    | some d => if d == down then (runLength? before? down b bs).map (· + 1) else some 0

/-- Where a binary search between two positions puts an element: behind all that it does not come
before. -/
def position? (before? : α → α → Option Bool) (x : α) (xs : List α) (low high : Nat) :
    Option Nat :=
  if low < high then
    let middle := low + (high - low) / 2
    match xs[middle]? with
    | none => some low
    | some y =>
      match before? x y with
      | none => none
      | some true => position? before? x xs low middle
      | some false => position? before? x xs (middle + 1) high
  else some low
termination_by high - low

/-- Inserts elements one by one. If that ends early, the elements are left as they stand. -/
def insertAll (before? : α → α → Option Bool) (placed : List α) :
    List α → Except (List α) (List α)
  | [] => .ok placed
  | x :: xs =>
    match position? before? x placed 0 placed.length with
    | none => .error (placed ++ x :: xs)
    | some i => insertAll before? (placed.take i ++ x :: placed.drop i) xs

/-- Sorts elements, or leaves them as they stand at the first comparison without an answer. -/
def sort (before? : α → α → Option Bool) : List α → Except (List α) (List α)
  | a :: b :: rest =>
    match before? b a with
    | none => .error (a :: b :: rest)
    | some down =>
      match runLength? before? down b rest with
      | none => .error (a :: b :: rest)
      | some n =>
        let start := a :: b :: rest.take n
        insertAll before? (if down then start.reverse else start) (rest.drop n)
  | xs => .ok xs

/-- The elements, sorted or as they were left. -/
def outcome : Except (List α) (List α) → List α
  | .ok xs => xs
  | .error xs => xs

@[simp] theorem outcome_ok (xs : List α) : outcome (.ok xs) = xs := rfl

@[simp] theorem outcome_error (xs : List α) : outcome (.error xs) = xs := rfl

theorem insertAll_perm (before? : α → α → Option Bool) (placed xs : List α) :
    (outcome (insertAll before? placed xs)).Perm (placed ++ xs) := by
  induction xs generalizing placed with
  | nil => simp [insertAll]
  | cons x xs ih =>
    simp only [insertAll]
    split
    · exact List.Perm.refl _
    · rename_i i _
      refine (ih _).trans ?_
      have hmid : (placed.take i ++ x :: placed.drop i).Perm (x :: placed) := by
        simpa using @List.perm_middle _ x (placed.take i) (placed.drop i)
      exact (hmid.append_right xs).trans List.perm_middle.symm

/-- Sorting loses no element and adds none, whether it ends early or not. -/
theorem sort_perm (before? : α → α → Option Bool) (xs : List α) :
    (outcome (sort before? xs)).Perm xs := by
  match xs with
  | [] | [_] => exact List.Perm.refl _
  | a :: b :: rest =>
    simp only [sort]
    split
    · exact List.Perm.refl _
    · split
      · exact List.Perm.refl _
      · rename_i down _ _ n _
        refine (insertAll_perm before? _ _).trans ?_
        have hstart : (if down then (a :: b :: rest.take n).reverse
            else a :: b :: rest.take n).Perm (a :: b :: rest.take n) := by
          split
          · exact List.reverse_perm _
          · exact List.Perm.refl _
        simpa using hstart.append_right (rest.drop n)

end CrmAutomation.Record.Insertion
