import Mathlib.Data.List.Basic

/-!
# Shares of a list

A list whose elements belong to several sides. The share of a side are its elements in their order.
Each side counts its own elements; where they stand among all elements is their place.

## Main definitions

* `share`, `place`: the elements of one side, and where each of them stands among all.
* `ChangedOn`: a list that changed on one side only.

## Main statements

* `getElem?_place`: an element is found at its place.
* `place_count`: the place of an element is the number of all elements before it.
-/
namespace GuardedSms

variable {ι : Type} [DecidableEq ι] {α : Type} {i j : ι} {sides : List ι} {xs : List α}

/-- The elements that belong to one side, by the sides of all elements. -/
def share (i : ι) : (sides : List ι) → List α → List α
  | j :: sides, x :: xs => if j = i then x :: share i sides xs else share i sides xs
  | _, _ => []

/-- The place among all elements of the one with the given number on its side. If there is none it
is the place behind all. -/
def place (i : ι) : (sides : List ι) → (number : Nat) → Nat
  | [], _ => 0
  | j :: sides, k =>
    if j = i then
      match k with
      | 0 => 0
      | k + 1 => place i sides k + 1
    else place i sides k + 1

theorem getElem?_place (h : sides.length = xs.length) (k : Nat) :
    xs[place i sides k]? = (share i sides xs)[k]? := by
  induction sides generalizing xs k with
  | nil =>
    obtain rfl : xs = [] := by simpa using h.symm
    rfl
  | cons j sides ih =>
    match xs with
    | x :: xs =>
      have shorter : sides.length = xs.length := by simpa using h
      by_cases same : j = i
      · cases k with
        | zero => simp [share, place, same]
        | succ k => simpa [share, place, same] using ih shorter k
      · simpa [share, place, same] using ih shorter k

theorem length_share (h : sides.length = xs.length) :
    (share i sides xs).length = sides.count i := by
  induction sides generalizing xs with
  | nil => rfl
  | cons j sides ih =>
    match xs with
    | x :: xs =>
      have shorter : sides.length = xs.length := by simpa using h
      by_cases same : j = i <;> simp [share, same, ih shorter]

/-- A further element of one side is the last of its share. -/
theorem share_concat (h : sides.length = xs.length) (x : α) :
    share i (sides ++ [i]) (xs ++ [x]) = share i sides xs ++ [x] := by
  induction sides generalizing xs with
  | nil =>
    obtain rfl : xs = [] := by simpa using h.symm
    simp [share]
  | cons j sides ih =>
    match xs with
    | y :: xs =>
      have shorter : sides.length = xs.length := by simpa using h
      by_cases same : j = i <;> simp [share, same, ih shorter]

theorem share_concat_other (h : sides.length = xs.length) (other : i ≠ j) (x : α) :
    share j (sides ++ [i]) (xs ++ [x]) = share j sides xs := by
  induction sides generalizing xs with
  | nil =>
    obtain rfl : xs = [] := by simpa using h.symm
    simp [share, other]
  | cons k sides ih =>
    match xs with
    | y :: xs =>
      have shorter : sides.length = xs.length := by simpa using h
      by_cases same : k = j <;> simp [share, same, ih shorter]

theorem share_set (h : sides.length = xs.length) (k : Nat) (x : α) :
    share i sides (xs.set (place i sides k) x) = (share i sides xs).set k x := by
  induction sides generalizing xs k with
  | nil =>
    obtain rfl : xs = [] := by simpa using h.symm
    rfl
  | cons j sides ih =>
    match xs with
    | y :: xs =>
      have shorter : sides.length = xs.length := by simpa using h
      by_cases same : j = i
      · cases k with
        | zero => simp [share, place, same]
        | succ k => simpa [share, place, same] using ih shorter k
      · simpa [share, place, same] using ih shorter k

theorem share_set_other (other : i ≠ j) (k : Nat) (x : α) :
    share j sides (xs.set (place i sides k) x) = share j sides xs := by
  induction sides generalizing xs k with
  | nil => cases xs <;> rfl
  | cons l sides ih =>
    match xs with
    | [] => rfl
    | y :: xs =>
      by_cases same : l = i
      · cases k with
        | zero => simp [share, place, same, other]
        | succ k => simp [share, place, same, other, ih k]
      · by_cases own : l = j
        · subst own
          simp [share, place, same, ih k]
        · simp [share, place, same, own, ih k]

/-- The place of an element is the number of all elements before it. -/
theorem place_count (sides more : List ι) :
    place i (sides ++ i :: more) (sides.count i) = sides.length := by
  induction sides with
  | nil => simp [place]
  | cons j sides ih => by_cases same : j = i <;> simp [place, same, ih]

/-- A list that changed on one side: the other sides have the elements that they had. -/
structure ChangedOn (i : ι) (sides sides' : List ι) (xs xs' : List α) : Prop where
  length : sides'.length = xs'.length
  others : ∀ j ≠ i, share j sides' xs' = share j sides xs

theorem ChangedOn.refl (h : sides.length = xs.length) : ChangedOn i sides sides xs xs :=
  ⟨h, fun _ _ => rfl⟩

theorem ChangedOn.concat (h : sides.length = xs.length) (x : α) :
    ChangedOn i sides (sides ++ [i]) xs (xs ++ [x]) :=
  ⟨by simp [h], fun _ other => share_concat_other h other.symm x⟩

theorem ChangedOn.set (h : sides.length = xs.length) (k : Nat) (x : α) :
    ChangedOn i sides sides xs (xs.set (place i sides k) x) :=
  ⟨by simp [h], fun _ other => share_set_other other.symm k x⟩

end GuardedSms
