namespace OtcDesk

variable {α β ε δ : Type}

/-- A reading that goes on with the result of another succeeds if both do. -/
theorem bind_eq_ok {reading : Except ε α} {next : α → Except ε β} {result : β} :
    reading >>= next = .ok result ↔ ∃ value, reading = .ok value ∧ next value = .ok result := by
  cases reading with
  | error failure => simp [bind, Except.bind]
  | ok value => simp [bind, Except.bind]

theorem ok_bind (value : α) (next : α → Except ε β) : .ok value >>= next = next value := rfl

theorem map_eq_ok {reading : Except ε α} {change : α → β} {result : β} :
    change <$> reading = .ok result ↔ ∃ value, reading = .ok value ∧ change value = result := by
  cases reading with
  | error failure => exact ⟨nofun, nofun⟩
  | ok value => simp [Functor.map, Except.map]

theorem mapError_ok (change : ε → δ) (value : α) :
    (Except.ok value : Except ε α).mapError change = .ok value := rfl

theorem mapError_eq_ok {reading : Except ε α} {change : ε → δ} {value : α}
    (succeeds : reading.mapError change = .ok value) : reading = .ok value := by
  cases reading with
  | error failure => cases succeeds
  | ok found =>
      cases succeeds
      rfl

theorem toOption_eq_some {reading : Except ε α} {value : α} :
    reading.toOption = some value ↔ reading = .ok value := by
  cases reading with
  | error failure => simp [Except.toOption]
  | ok found => simp [Except.toOption]

end OtcDesk
