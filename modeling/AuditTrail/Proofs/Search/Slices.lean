import Mathlib.Data.List.Sort

/-!
# Slices of sorted lists

Pages are slices, one behind the other, and each may be cut from another order of the same rows.
When all orders sort the rows by one key, what the slices deliver has the keys of a single order.
Rows with one key are all delivered when one slice has room for all of them.
-/

namespace AuditTrail.Search

variable {α β : Type}

/-- Slices that are cut one behind the other, each from an order of its own. -/
def slices (size : Nat) : Nat → List (List α) → List (List α)
  | _, [] => []
  | start, order :: rest => (order.drop start).take size :: slices size (start + size) rest

/-- What slices deliver together. -/
def delivered (size start : Nat) (orders : List (List α)) : List α :=
  (slices size start orders).flatten

theorem delivered_cons (size start : Nat) (order : List α) (rest : List (List α)) :
    delivered size start (order :: rest) =
      (order.drop start).take size ++ delivered size (start + size) rest := rfl

theorem map_delivered (f : α → β) (size start : Nat) (orders : List (List α)) :
    (delivered size start orders).map f = delivered size start (orders.map (List.map f)) := by
  induction orders generalizing start with
  | nil => rfl
  | cons order rest ih =>
      rw [List.map_cons, delivered_cons, delivered_cons, List.map_append, List.map_take,
        List.map_drop, ih]

/-- Slices of one order are put together again. -/
theorem delivered_of_same {size start : Nat} {orders : List (List α)} {whole : List α}
    (same : ∀ order ∈ orders, order = whole) :
    delivered size start orders = (whole.drop start).take (orders.length * size) := by
  induction orders generalizing start with
  | nil => simp [delivered, slices]
  | cons order rest ih =>
      have later : ∀ other ∈ rest, other = whole :=
        fun other member => same other (by simp [member])
      have split : (order :: rest).length * size = size + rest.length * size := by
        rw [List.length_cons, Nat.succ_mul, Nat.add_comm]
      rw [delivered_cons, ih later, split, same order (by simp), List.take_add, List.drop_drop]

theorem mem_of_mem_delivered {size start : Nat} {orders : List (List α)} {x : α}
    (member : x ∈ delivered size start orders) : ∃ order ∈ orders, x ∈ order := by
  induction orders generalizing start with
  | nil => cases member
  | cons order rest ih =>
      rw [delivered_cons, List.mem_append] at member
      rcases member with slice | later
      · exact ⟨order, by simp, List.mem_of_mem_drop (List.mem_of_mem_take slice)⟩
      · obtain ⟨other, there, inside⟩ := ih later
        exact ⟨other, by simp [there], inside⟩

/-- A list with the same elements that is sorted by a key. -/
structure SortedBy (key : α → Int) (elements order : List α) : Prop where
  perm : order.Perm elements
  sorted : order.Pairwise fun x y => key x ≤ key y

/-- Orders that are sorted by one key have the same keys. -/
theorem SortedBy.map_eq {key : α → Int} {elements one other : List α}
    (first : SortedBy key elements one) (second : SortedBy key elements other) :
    one.map key = other.map key := by
  have perm : (one.map key).Perm (other.map key) :=
    (first.perm.trans second.perm.symm).map key
  refine perm.eq_of_pairwise' (r := (· ≤ ·)) ?_ ?_
  · exact List.pairwise_map.mpr first.sorted
  · exact List.pairwise_map.mpr second.sorted

/-- Slices of sorted orders deliver the keys of all elements in their order. -/
theorem exists_keys_delivered {key : α → Int} {elements : List α} {orders : List (List α)}
    {size : Nat} (sorted : ∀ order ∈ orders, SortedBy key elements order)
    (enough : elements.length ≤ orders.length * size) :
    ∃ keys, keys.Pairwise (· ≤ ·) ∧ keys.Perm (elements.map key) ∧
      (delivered size 0 orders).map key = keys := by
  cases orders with
  | nil =>
      have none : elements = [] := by simpa using enough
      exact ⟨[], .nil, by simp [none], rfl⟩
  | cons whole rest =>
      have own := sorted whole (by simp)
      refine ⟨whole.map key, List.pairwise_map.mpr own.sorted, own.perm.map key, ?_⟩
      have same : ∀ keys ∈ (whole :: rest).map (List.map key), keys = whole.map key := by
        intro keys member
        obtain ⟨order, inside, rfl⟩ := List.mem_map.mp member
        exact (sorted order inside).map_eq own
      rw [map_delivered, delivered_of_same same, List.drop_zero]
      apply List.take_of_length_le
      rwa [List.length_map, List.length_map, own.perm.length_eq]

/-- Slices of one sorted order deliver all elements. -/
theorem perm_delivered {key : α → Int} {elements whole : List α} {orders : List (List α)}
    {size : Nat} (sorted : ∀ order ∈ orders, SortedBy key elements order)
    (same : ∀ order ∈ orders, order = whole)
    (enough : elements.length ≤ orders.length * size) :
    (delivered size 0 orders).Perm elements := by
  cases orders with
  | nil =>
      have none : elements = [] := by simpa using enough
      rw [none]
      exact .nil
  | cons first rest =>
      have own := sorted first (by simp)
      rw [same first (by simp)] at own
      rw [delivered_of_same same, List.drop_zero,
        List.take_of_length_le (by rwa [own.perm.length_eq])]
      exact own.perm

/-- The elements with a key that stand among the first ones of a sorted order. -/
theorem countP_take {key : α → Int} {order : List α}
    (sorted : order.Pairwise fun x y => key x ≤ key y) (value : Int) (count : Nat) :
    (order.take count).countP (fun x => key x = value) =
      min (order.countP fun x => key x = value)
        (count - order.countP fun x => key x < value) := by
  induction order generalizing count with
  | nil => simp
  | cons first rest ih =>
      obtain ⟨least, sorted⟩ := List.pairwise_cons.mp sorted
      cases count with
      | zero => simp
      | succ count =>
          rw [List.take_succ_cons, List.countP_cons, List.countP_cons, List.countP_cons, ih sorted]
          rcases lt_trichotomy (key first) value with less | same | greater
          · have other : key first ≠ value := by omega
            simp only [decide_eq_true_eq, other, less, if_true, if_false]
            omega
          · have none : rest.countP (fun x => key x < value) = 0 := by
              rw [List.countP_eq_zero]
              intro x member
              have := least x member
              simp only [decide_eq_true_eq]
              omega
            simp only [decide_eq_true_eq, same, none, lt_irrefl, if_true, if_false]
            omega
          · have none : rest.countP (fun x => key x = value) = 0 := by
              rw [List.countP_eq_zero]
              intro x member
              have := least x member
              simp only [decide_eq_true_eq]
              omega
            have other : key first ≠ value := by omega
            simp only [decide_eq_true_eq, other, none, if_false]
            omega

/-- The elements with a key that stand in a slice of a sorted order. -/
theorem countP_slice {key : α → Int} {order : List α}
    (sorted : order.Pairwise fun x y => key x ≤ key y) (value : Int) (start size : Nat) :
    ((order.drop start).take size).countP (fun x => key x = value) =
      min (order.countP fun x => key x = value)
          (start + size - order.countP fun x => key x < value) -
        min (order.countP fun x => key x = value)
          (start - order.countP fun x => key x < value) := by
  have whole := countP_take sorted value (start + size)
  rw [List.take_add, List.countP_append, countP_take sorted value start] at whole
  omega

/-- The elements with a key. -/
def tied (key : α → Int) (value : Int) (elements : List α) : List α :=
  elements.filter fun x => key x = value

theorem tied_append (key : α → Int) (value : Int) (front back : List α) :
    tied key value (front ++ back) = tied key value front ++ tied key value back :=
  List.filter_append front back

theorem length_tied (key : α → Int) (value : Int) (elements : List α) :
    (tied key value elements).length = elements.countP fun x => key x = value :=
  List.countP_eq_length_filter.symm

theorem countP_lt_add_countP_eq_le (key : α → Int) (value : Int) (elements : List α) :
    (elements.countP fun x => key x < value) + (elements.countP fun x => key x = value) ≤
      elements.length := by
  rw [List.length_eq_countP_add_countP fun x => key x < value]
  apply Nat.add_le_add_left
  apply List.countP_mono_left
  intro x _ same
  simp only [decide_eq_true_eq] at same ⊢
  omega

/-- Whether the slice with a number, counted from zero, has room for all elements with a key. -/
def Fits (key : α → Int) (value : Int) (elements : List α) (size number : Nat) : Prop :=
  number * size ≤ (elements.countP fun x => key x < value) ∧
    (elements.countP fun x => key x < value) + (elements.countP fun x => key x = value) ≤
      (number + 1) * size

/-- A slice with room for all elements with a key gives all of them. -/
theorem SortedBy.tied_slice {key : α → Int} {elements order : List α}
    (sorted : SortedBy key elements order) {value : Int} {size number : Nat}
    (fits : Fits key value elements size number) :
    (tied key value ((order.drop (number * size)).take size)).Perm
      (tied key value elements) := by
  obtain ⟨begins, ends⟩ := fits
  have part : (tied key value ((order.drop (number * size)).take size)).Sublist
      (tied key value order) :=
    ((List.take_sublist _ _).trans (List.drop_sublist _ _)).filter _
  have count := countP_slice sorted.sorted value (number * size) size
  rw [sorted.perm.countP_eq, sorted.perm.countP_eq] at count
  have full : (tied key value ((order.drop (number * size)).take size)).length =
      (tied key value order).length := by
    rw [length_tied, length_tied, count, sorted.perm.countP_eq]
    rw [Nat.succ_mul] at ends
    omega
  rw [part.eq_of_length full]
  exact sorted.perm.filter _

/-- Every other slice gives none of them. -/
theorem SortedBy.tied_slice_eq_nil {key : α → Int} {elements order : List α}
    (sorted : SortedBy key elements order) {value : Int} {size number other : Nat}
    (fits : Fits key value elements size number) (apart : other ≠ number) :
    tied key value ((order.drop (other * size)).take size) = [] := by
  obtain ⟨begins, ends⟩ := fits
  have count := countP_slice sorted.sorted value (other * size) size
  rw [sorted.perm.countP_eq, sorted.perm.countP_eq] at count
  rw [← List.length_eq_zero_iff, length_tied, count]
  rcases Nat.lt_or_gt_of_ne apart with before | behind
  · have bound : (other + 1) * size ≤ number * size := Nat.mul_le_mul_right size before
    rw [Nat.succ_mul] at bound
    omega
  · have bound : (number + 1) * size ≤ other * size := Nat.mul_le_mul_right size behind
    omega

/-- Elements with a key are all delivered, and each of them once, when one slice has room for all
of them.  The induction follows the orders; the number of the first slice tells whether that slice
is still to come. -/
theorem tied_delivered {key : α → Int} {elements : List α} {orders : List (List α)}
    (sorted : ∀ order ∈ orders, SortedBy key elements order) {value : Int} {size number : Nat}
    (fits : Fits key value elements size number) (first : Nat)
    (enough : elements.length ≤ (first + orders.length) * size) :
    (tied key value (delivered size (first * size) orders)).Perm
      (if first ≤ number then tied key value elements else []) := by
  induction orders generalizing first with
  | nil =>
      split
      · next coming =>
          have bound : first * size ≤ number * size := Nat.mul_le_mul_right size coming
          have all := countP_lt_add_countP_eq_le key value elements
          obtain ⟨begins, _⟩ := fits
          rw [List.length_nil, Nat.add_zero] at enough
          have few : (elements.countP fun x => key x = value) = 0 := by omega
          rw [← length_tied, List.length_eq_zero_iff] at few
          rw [few]
          exact .nil
      · exact .nil
  | cons order rest ih =>
      have later := ih (fun other member => sorted other (by simp [member])) (first + 1)
        (by rw [List.length_cons] at enough; rwa [Nat.add_assoc, Nat.add_comm 1])
      have own := sorted order (by simp)
      rw [Nat.succ_mul] at later
      rw [delivered_cons, tied_append]
      rcases lt_trichotomy first number with before | same | behind
      · rw [own.tied_slice_eq_nil fits (by omega), List.nil_append, if_pos (by omega)]
        rwa [if_pos (by omega)] at later
      · subst same
        rw [if_neg (by omega), List.perm_nil] at later
        rw [later, List.append_nil, if_pos le_rfl]
        exact own.tied_slice fits
      · rw [own.tied_slice_eq_nil fits (by omega), List.nil_append, if_neg (by omega)]
        rwa [if_neg (by omega)] at later

end AuditTrail.Search
