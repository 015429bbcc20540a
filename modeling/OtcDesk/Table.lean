namespace OtcDesk

/-- A table from texts to values, in order of entry. -/
abbrev Table (α : Type) := List (String × α)

namespace Table

variable {α : Type}

/-- The value under a key. -/
def get? (key : String) : Table α → Option α
  | [] => none
  | (k, value) :: rest => if k = key then some value else get? key rest

/-- The table with a value entered under a key. -/
def put (key : String) (value : α) : Table α → Table α
  | [] => [(key, value)]
  | (k, old) :: rest => if k = key then (k, value) :: rest else (k, old) :: put key value rest

/-- The table without a key. -/
def erase (key : String) (table : Table α) : Table α := table.filter (·.1 ≠ key)

/-- The keys in order of entry. -/
def keys (table : Table α) : List String := table.map (·.1)

/-- The table of the pairs entered one after another. -/
def ofList (pairs : List (String × α)) : Table α :=
  pairs.foldl (fun table pair => put pair.1 pair.2 table) []

@[simp] theorem get?_nil (key : String) : get? key ([] : Table α) = none := rfl

@[simp] theorem get?_put_self (key : String) (value : α) (table : Table α) :
    get? key (put key value table) = some value := by
  induction table with
  | nil => simp [put, get?]
  | cons pair rest ih =>
      unfold put
      split <;> simp_all [get?]

theorem get?_put_of_ne {key other : String} (different : key ≠ other) (value : α)
    (table : Table α) : get? other (put key value table) = get? other table := by
  induction table with
  | nil => simp [put, get?, different]
  | cons pair rest ih =>
      unfold put
      split
      · next same => subst same; simp [get?, different]
      · simp [get?, ih]

@[simp] theorem get?_erase_self (key : String) (table : Table α) :
    get? key (erase key table) = none := by
  induction table with
  | nil => rfl
  | cons pair rest ih =>
      by_cases same : pair.1 = key <;> simp_all [erase, get?]

theorem get?_erase_of_ne {key other : String} (different : key ≠ other) (table : Table α) :
    get? other (erase key table) = get? other table := by
  induction table with
  | nil => rfl
  | cons pair rest ih =>
      by_cases same : pair.1 = key
      · subst same
        simp_all [erase, get?]
      · simp_all [erase, get?]

end Table

end OtcDesk
