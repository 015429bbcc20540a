import OtcDesk.Text.Blank

namespace OtcDesk.Text

/-- A core is what is left of a text when the characters that satisfy `p` go from both ends. -/
structure Trimmed (p : Char → Bool) (text core : List Char) : Prop where
  around : ∃ front back, text = front ++ core ++ back ∧ (∀ c ∈ front, p c = true) ∧
    ∀ c ∈ back, p c = true
  first : ∀ c ∈ core.head?, p c = false
  last : ∀ c ∈ core.getLast?, p c = false

theorem head?_dropWhile (p : Char → Bool) (text : List Char) :
    ∀ c ∈ (text.dropWhile p).head?, p c = false := by
  intro c found
  have stays := List.head?_dropWhile_not p text
  rw [Option.mem_def.mp found] at stays
  exact stays

/-- The end that goes stands behind what stays. -/
theorem dropWhileEnd_append (p : Char → Bool) (text : List Char) :
    ∃ back, text = dropWhileEnd p text ++ back ∧ ∀ c ∈ back, p c = true := by
  refine ⟨(text.reverse.takeWhile p).reverse, ?_, ?_⟩
  · rw [dropWhileEnd, ← List.reverse_append, List.takeWhile_append_dropWhile, List.reverse_reverse]
  · intro c member
    exact List.all_eq_true.mp List.all_takeWhile c (List.mem_reverse.mp member)

theorem trimmed_trimWhere (p : Char → Bool) (text : List Char) :
    Trimmed p text (trimWhere p text) := by
  obtain ⟨back, split, blank⟩ := dropWhileEnd_append p (text.dropWhile p)
  have front : ∀ c ∈ text.takeWhile p, p c = true := List.all_eq_true.mp List.all_takeWhile
  refine ⟨⟨text.takeWhile p, back, ?_, front, blank⟩, ?_, ?_⟩
  · rw [trimWhere, List.append_assoc, ← split, List.takeWhile_append_dropWhile]
  · intro c found
    apply head?_dropWhile p text c
    rw [split, List.head?_append, ← trimWhere, Option.mem_def.mp found]
    rfl
  · intro c found
    rw [trimWhere, dropWhileEnd, List.getLast?_reverse] at found
    exact head?_dropWhile p _ c found

theorem dropWhile_append_of_head? {p : Char → Bool} {front rest : List Char}
    (gone : ∀ c ∈ front, p c = true) (stays : ∀ c ∈ rest.head?, p c = false) :
    (front ++ rest).dropWhile p = rest := by
  rw [List.dropWhile_append_of_pos gone]
  cases rest with
  | nil => rfl
  | cons c rest => exact List.dropWhile_cons_of_neg (by simp [stays c rfl])

theorem dropWhileEnd_append_of_getLast? {p : Char → Bool} {rest back : List Char}
    (gone : ∀ c ∈ back, p c = true) (stays : ∀ c ∈ rest.getLast?, p c = false) :
    dropWhileEnd p (rest ++ back) = rest := by
  rw [dropWhileEnd, List.reverse_append, dropWhile_append_of_head?, List.reverse_reverse]
  · exact fun c member => gone c (List.mem_reverse.mp member)
  · rwa [List.head?_reverse]

/-- A text has one core only, which is what trimming leaves. -/
theorem trimWhere_eq_iff {p : Char → Bool} {text core : List Char} :
    trimWhere p text = core ↔ Trimmed p text core := by
  constructor
  · rintro rfl
    exact trimmed_trimWhere p text
  · rintro ⟨⟨front, back, rfl, gone, goneToo⟩, first, last⟩
    rw [trimWhere, List.append_assoc]
    cases core with
    | nil =>
        -- without a core, what stands in front and behind is all one run
        have run : ∀ c ∈ front ++ back, p c = true := List.forall_mem_append.mpr ⟨gone, goneToo⟩
        have empty : (front ++ back ++ []).dropWhile p = [] := dropWhile_append_of_head? run nofun
        rw [List.append_nil] at empty
        rw [List.nil_append, empty]
        rfl
    | cons c rest =>
        have opened : (front ++ (c :: rest ++ back)).dropWhile p = c :: rest ++ back :=
          dropWhile_append_of_head? gone first
        rw [opened, dropWhileEnd_append_of_getLast? goneToo last]

/-- A text in which nothing goes is its own core. -/
theorem trimmed_of_solid {p : Char → Bool} {text : List Char} (solid : ∀ c ∈ text, p c = false) :
    Trimmed p text text where
  around := ⟨[], [], (List.append_nil text).symm, nofun, nofun⟩
  first := fun c found => solid c (List.mem_of_head? found)
  last := fun c found => solid c (List.mem_of_getLast? found)

end OtcDesk.Text
