/-!
# Tables

Values under texts as keys. Putting a value under a key takes the place of the value that was there;
no key occurs twice in a table that is built from the empty one.
-/

namespace Provisioning

structure Table (α : Type) where
  rows : List (String × α) := []

namespace Table

variable {α : Type}

def find? (t : Table α) (key : String) : Option α :=
  (t.rows.find? fun row => row.1 == key).map Prod.snd

/-- The table without a key. -/
def erase (t : Table α) (key : String) : Table α :=
  ⟨t.rows.filter fun row => row.1 != key⟩

/-- The table with a value under a key. -/
def insert (t : Table α) (key : String) (value : α) : Table α :=
  ⟨(t.erase key).rows ++ [(key, value)]⟩

def size (t : Table α) : Nat := t.rows.length

/-- The table of a row of values; of two values with one key the later one counts. -/
def ofList (key : α → String) (values : List α) : Table α :=
  values.foldl (fun t v => t.insert (key v) v) {}

theorem find?_erase_self (t : Table α) (key : String) : (t.erase key).find? key = none := by
  simp [find?, erase, List.find?_filter]

theorem find?_erase_of_ne (t : Table α) {key other : String} (h : other ≠ key) :
    (t.erase key).find? other = t.find? other := by
  simp only [find?, erase, List.find?_filter]
  congr 2
  funext row
  by_cases hr : row.1 = other
  · simp [hr, h]
  · simp [hr]

theorem find?_insert_self (t : Table α) (key : String) (value : α) :
    (t.insert key value).find? key = some value := by
  have he := find?_erase_self t key
  simp only [find?, Option.map_eq_none_iff] at he
  simp [find?, insert, List.find?_append, he]

theorem find?_insert_of_ne (t : Table α) {key other : String} (value : α) (h : other ≠ key) :
    (t.insert key value).find? other = t.find? other := by
  have he := find?_erase_of_ne t h
  simp only [find?] at he ⊢
  simp [insert, List.find?_append, Ne.symm h, he]

/-- A row of values that goes into a table: of those with a key the last one is found, and without
one what the table had before. -/
theorem find?_foldl_insert (key : α → String) (values : List α) (t : Table α) (k : String) :
    (values.foldl (fun t v => t.insert (key v) v) t).find? k =
      ((values.filter fun v => key v == k).getLast?).or (t.find? k) := by
  induction values generalizing t with
  | nil => simp
  | cons v values ih =>
      rw [List.foldl_cons, ih]
      by_cases h : key v = k
      · subst h
        rw [find?_insert_self, List.filter_cons_of_pos (by simp), List.getLast?_cons]
        cases (values.filter fun w => key w == key v).getLast? <;> rfl
      · rw [find?_insert_of_ne t v (Ne.symm h), List.filter_cons_of_neg (by simpa using h)]

/-- The value of a key is the last one that has it. -/
theorem find?_ofList (key : α → String) (values : List α) (k : String) :
    (ofList key values).find? k = (values.filter fun v => key v == k).getLast? := by
  rw [ofList, find?_foldl_insert]
  simp [find?]

end Table

end Provisioning
