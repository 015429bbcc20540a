import OtcDesk.CommandLine.Command
import OtcDesk.Proofs.Record.Reading

namespace OtcDesk.CommandLine

/-- Arguments name a submission, and these values are read for its options, nothing left over. -/
def SubmitsWith (arguments : List String) (values : Table String) : Prop :=
  ∃ before rest reading unread,
    readArguments Command.commonRules true arguments = .ok (before, "submit" :: rest) ∧
    readArguments Command.submitRules false rest = .ok (reading, unread) ∧
    before.leftOver = false ∧ reading.leftOver = false ∧ reading.values = values

namespace Command

variable {values : Table String} {rules : List OptionRule} {name : String} {options : SubmitOptions}
  {make : Table String → Except Stop Command}

/-- A command with one argument is no submission, whether the argument was given or not. -/
theorem map_ne_submit {command : String → Command} (other : ∀ text, command text ≠ submit options)
    (given : Except Stop String) : command <$> given ≠ .ok (submit options) := by
  cases given with
  | error stop => exact fun same => by cases same
  | ok text => exact fun same => other text (Except.ok.inj same)

/-- Only the command of its name makes a submission. -/
theorem grammar?_submit (known : grammar? name = some (rules, make))
    (made : make values = .ok (submit options)) :
    name = "submit" ∧ rules = submitRules ∧ options = submitOptions values := by
  unfold grammar? at known
  split at known
  case h_5 =>
    cases known
    cases made
    exact ⟨rfl, rfl, rfl⟩
  case h_2 | h_3 =>
    cases known
    cases made
  case h_7 => cases known
  all_goals
    cases known
    exact absurd made (map_ne_submit (fun text same => by cases same) _)

/-- A submission is asked for with the values of its options. -/
theorem submits_of_ofArguments {arguments : List String}
    (asked : ofArguments arguments = .ok (submit options)) :
    ∃ values, SubmitsWith arguments values ∧ options = submitOptions values := by
  rw [ofArguments, bind_eq_ok] at asked
  obtain ⟨⟨before, rest⟩, started, asked⟩ := asked
  cases rest with
  | nil => cases asked
  | cons name rest =>
      dsimp only at asked
      split at asked
      · cases asked
      · rename_i rules make known
        simp only [bind_eq_ok] at asked
        obtain ⟨⟨reading, unread⟩, read, command, made, asked⟩ := asked
        split at asked
        · cases asked
        · rename_i whole
          cases asked
          obtain ⟨rfl, rfl, same⟩ := grammar?_submit known made
          simp only [Bool.or_eq_true, not_or, Bool.not_eq_true] at whole
          exact ⟨reading.values, ⟨before, rest, reading, unread, started, read, whole.1, whole.2, rfl⟩,
            same⟩

end Command

end OtcDesk.CommandLine
