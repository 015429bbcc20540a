import Mathlib.Data.List.Induction
import OtcDesk.Table

namespace OtcDesk.Table

variable {α : Type}

theorem put_absent {key : String} (value : α) {table : Table α} (absent : key ∉ table.keys) :
    table.put key value = table ++ [(key, value)] := by
  induction table with
  | nil => rfl
  | cons pair rest ih =>
      rw [keys, List.map_cons, List.mem_cons, not_or] at absent
      obtain ⟨different, later⟩ := absent
      rw [put, if_neg (Ne.symm different), ih later]
      rfl

/-- Entering what is there changes nothing. -/
theorem put_of_get? {key : String} {value : α} {table : Table α} :
    table.get? key = some value → table.put key value = table := by
  induction table with
  | nil =>
      intro here
      cases here
  | cons pair rest ih =>
      intro here
      rw [get?] at here
      rw [put]
      split
      · rename_i same
        rw [if_pos same] at here
        cases here
        rfl
      · rename_i different
        rw [if_neg different] at here
        rw [ih here]

/-- Entering a new key and erasing it changes nothing. -/
theorem erase_put {key : String} (value : α) {table : Table α} :
    table.get? key = none → (table.put key value).erase key = table := by
  induction table with
  | nil =>
      intro _
      simp [put, erase]
  | cons pair rest ih =>
      intro absent
      rw [get?] at absent
      split at absent
      · cases absent
      · rename_i different
        have later : (put key value rest).filter (·.1 ≠ key) = rest := ih absent
        rw [put, if_neg different, erase, List.filter_cons, later]
        simp [different]

theorem foldl_put_of_nodup (pairs : List (String × α)) :
    ∀ table : Table α, (table.keys ++ pairs.map (·.1)).Nodup →
      pairs.foldl (fun table pair => put pair.1 pair.2 table) table = table ++ pairs := by
  induction pairs with
  | nil => exact fun table _ => (List.append_nil table).symm
  | cons pair rest ih =>
      intro table nodup
      have absent : pair.1 ∉ table.keys := by
        intro member
        have apart := (List.nodup_append.mp nodup).2.2 pair.1 member pair.1 (by simp)
        exact apart rfl
      rw [List.foldl_cons, put_absent pair.2 absent, ih]
      · rw [List.append_assoc]
        rfl
      · simpa [keys] using nodup

/-- Pairs with distinct keys are a table as they stand. -/
theorem ofList_of_nodup {pairs : List (String × α)} (nodup : (pairs.map (·.1)).Nodup) :
    ofList pairs = pairs := foldl_put_of_nodup pairs [] nodup

theorem mem_keys_put {key other : String} {value : α} {table : Table α} :
    other ∈ (table.put key value).keys ↔ other = key ∨ other ∈ table.keys := by
  induction table with
  | nil => simp [put, keys]
  | cons pair rest ih =>
      unfold put
      split
      · rename_i same
        subst same
        simp [keys]
      · simp only [keys, List.map_cons, List.mem_cons] at ih ⊢
        rw [ih]
        constructor
        · rintro (first | same | later)
          · exact .inr (.inl first)
          · exact .inl same
          · exact .inr (.inr later)
        · rintro (same | first | later)
          · exact .inr (.inl same)
          · exact .inl first
          · exact .inr (.inr later)

/-- Entering a value keeps the keys distinct. -/
theorem nodup_put (key : String) (value : α) {table : Table α} :
    table.keys.Nodup → (table.put key value).keys.Nodup := by
  induction table with
  | nil =>
      intro _
      simp [put, keys]
  | cons pair rest ih =>
      intro nodup
      obtain ⟨absent, later⟩ := List.nodup_cons.mp nodup
      unfold put
      split
      · exact nodup
      · rename_i different
        apply List.nodup_cons.mpr
        refine ⟨?_, ih later⟩
        intro member
        rcases mem_keys_put.mp member with same | member
        · exact different same
        · exact absent member

/-- Erasing a key keeps the others distinct. -/
theorem nodup_erase (key : String) {table : Table α} (nodup : table.keys.Nodup) :
    (table.erase key).keys.Nodup :=
  nodup.sublist (List.filter_sublist.map _)

/-- The keys of a table of pairs are distinct. -/
theorem nodup_ofList (pairs : List (String × α)) : (ofList pairs).keys.Nodup := by
  have extends_ : ∀ table : Table α, table.keys.Nodup →
      (keys (pairs.foldl (fun table pair => put pair.1 pair.2 table) table)).Nodup := by
    induction pairs with
    | nil => exact fun _ nodup => nodup
    | cons pair rest ih => exact fun table nodup => ih _ (nodup_put _ _ nodup)
  exact extends_ [] List.nodup_nil

/-- A value that is changed is found under its key. -/
theorem get?_map {β : Type} (change : α → β) (key : String) (table : Table α) :
    get? key (table.map fun pair => (pair.1, change pair.2)) = (get? key table).map change := by
  induction table with
  | nil => rfl
  | cons pair rest ih =>
      simp only [List.map_cons, get?]
      split
      · rfl
      · exact ih

/-- The value of the last pair with a key, if there is one. -/
def last? (key : String) (pairs : List (String × α)) : Option α :=
  (pairs.reverse.find? (·.1 == key)).map (·.2)

theorem last?_concat (key : String) (earlier : List (String × α)) (pair : String × α) :
    last? key (earlier ++ [pair]) = if pair.1 = key then some pair.2 else last? key earlier := by
  unfold last?
  rw [List.reverse_concat, List.find?_cons]
  by_cases same : pair.1 = key
  · simp [same]
  · rw [beq_eq_false_iff_ne.mpr same, if_neg same]

/-- Of pairs with equal keys the last one counts. -/
theorem get?_ofList (key : String) (pairs : List (String × α)) :
    get? key (ofList pairs) = last? key pairs := by
  induction pairs using List.reverseRecOn with
  | nil => rfl
  | append_singleton earlier pair ih =>
      have entered : ofList (earlier ++ [pair]) = put pair.1 pair.2 (ofList earlier) :=
        List.foldl_append
      rw [entered, last?_concat, ← ih]
      by_cases same : pair.1 = key
      · rw [if_pos same, same, get?_put_self]
      · rw [if_neg same, get?_put_of_ne same]

end OtcDesk.Table
