import OtcDesk.CommandLine.Shell
import OtcDesk.Proofs.Backend.Remote
import OtcDesk.Proofs.Backend.Requests
import OtcDesk.Proofs.Tracker.Ending

namespace OtcDesk

namespace Remote

variable {remote : Remote}

/-- The backend after a run was fetched so many times. -/
def fetched (run : String) (token : Option String) : Nat → Remote → Remote
  | 0, remote => remote
  | count + 1, remote => fetched run token count (fetchProofJobs run token remote).2

theorem fetched_makes (run : String) (token : Option String) (count : Nat) :
    ∀ remote : Remote, remote.Makes (fetched run token count remote)
      (List.replicate count (remote.jobsRequest run token)) := by
  induction count with
  | zero => exact Makes.refl
  | succ count ih =>
      intro remote
      have first : remote.Makes (fetchProofJobs run token remote).2
          [remote.jobsRequest run token] := fetchProofJobs_makes run token
      have later := ih (fetchProofJobs run token remote).2
      rw [first.jobsRequest] at later
      exact first.trans later

end Remote

open Tracking

/-- A tracking over the network leaves a gateway to the network, after some fetches. -/
theorem Gateway.fetchedFrom_remote (clock : Clock) (run : String) (token : Option String)
    (entropy : Entropy) (count : Nat) : ∀ kept : Remote,
    fetchedFrom (Gateway.backend clock) run token count (.remote kept, entropy) =
      (.remote (kept.fetched run token count), entropy) := by
  induction count with
  | zero => exact fun _ => rfl
  | succ count ih => exact fun kept => ih (Remote.fetchProofJobs run token kept).2

namespace CommandLine.Shell

variable {shell : Shell}

theorem print_of_fits {text : String} (fits : shell.canPrint text = true) :
    print text shell = (.ok (), { shell with output := shell.output ++ text ++ "\n" }) := by
  rw [print, if_pos fits]

theorem print_of_unfit {text : String} (unfit : shell.canPrint text = false) :
    print text shell = (.error (.fault unprintable), shell) := by
  rw [print, if_neg (by simp [unfit])]

/-- An attempt changes nothing but what is printed. -/
def OnlyPrints {α : Type} (attempt : Attempt Shell α) : Prop :=
  ∀ shell, ∃ output, (attempt shell).2 = { shell with output }

theorem onlyPrints_print (text : String) : OnlyPrints (print text) := by
  intro shell
  rw [print]
  split
  · exact ⟨_, rfl⟩
  · exact ⟨shell.output, rfl⟩

theorem OnlyPrints.andThen {α β : Type} {first : Attempt Shell α} {next : α → Attempt Shell β}
    (prints : OnlyPrints first) (goesOn : ∀ value, OnlyPrints (next value)) :
    OnlyPrints (first.andThen next) := by
  intro shell
  obtain ⟨output, printed⟩ := prints shell
  unfold Attempt.andThen
  cases ended : first shell with
  | mk result after =>
      rw [ended] at printed
      subst printed
      cases result with
      | error failure => exact ⟨output, rfl⟩
      | ok value => exact goesOn value _

theorem onlyPrints_result {α : Type} (result : Except Failure α) :
    OnlyPrints fun shell => (result, shell) := fun shell => ⟨shell.output, rfl⟩

theorem onlyPrints_printAll (texts : List String) : OnlyPrints (printAll texts) := by
  induction texts with
  | nil => exact onlyPrints_result (.ok ())
  | cons text rest ih => exact (onlyPrints_print text).andThen fun _ => ih

theorem onlyPrints_conclude {α : Type} (result : Except Failure α) (text : α → String)
    (code : α → Nat) : OnlyPrints (conclude result text code) := by
  cases result with
  | error failure => exact onlyPrints_result (.error failure)
  | ok value => exact (onlyPrints_print _).andThen fun _ => onlyPrints_result _

theorem onlyPrints_showRefusal (failure : Failure) : OnlyPrints (showRefusal failure) := by
  intro shell
  unfold showRefusal
  split
  · exact ((onlyPrints_print _).andThen fun _ => onlyPrints_result _) shell
  · exact onlyPrints_result _ shell

/-- Printing asks for nothing. -/
theorem OnlyPrints.requests {α : Type} {attempt : Attempt Shell α} (prints : OnlyPrints attempt)
    (shell : Shell) : (attempt shell).2.requests = shell.requests := by
  obtain ⟨output, printed⟩ := prints shell
  rw [printed]

@[simp] theorem requests_remark (remarks : List Warning) :
    (shell.remark remarks).requests = shell.requests := rfl

@[simp] theorem requests_keepGateway (kept : Remote) (entropy : Entropy) :
    (shell.keepGateway (.remote kept, entropy)).requests = shell.requests ++ kept.requests := rfl

variable {config : Config} {kept : Remote} {entropy : Entropy} {token : Option String}

/-- A followed run changes nothing but what is printed, apart from what its tracking leaves. -/
theorem follow_requests_eq (shell : Shell) (color : String)
    (tracking : Tracking Gateway.State) :
    (follow config color tracking shell).2.requests =
      (shell.keepGateway (shell.watch config color tracking).backend).requests := by
  rw [follow]
  rw [((onlyPrints_printAll _).andThen fun _ => onlyPrints_conclude _ _ _).requests]
  cases (shell.watch config color tracking).backend with
  | mk gateway entropy => cases gateway <;> rfl

/-- Whoever follows a run over the network asks for its proof jobs and nothing else. -/
theorem follow_requests (shell : Shell) (color : String)
    {activation : Happening Gateway.State} {run : String}
    (activates : activation.activation? = some (some run))
    (readable : (loadToken (some (shell.store config))).value = .ok token) :
    ∃ count, (follow config color ((tracking config (.remote kept, entropy)).happen activation)
      shell).2.requests =
        shell.requests ++ kept.requests ++ List.replicate count (kept.jobsRequest run token) := by
  have orderly : (tracking config (.remote kept, entropy)).tracker.Orderly :=
    fresh_orderly _ {} ((Gateway.remote kept, entropy) : Gateway.State)
  obtain ⟨count, left⟩ : ∃ count, (shell.watch config color
      ((tracking config (.remote kept, entropy)).happen activation)).backend =
        fetchedFrom (Gateway.backend shell.clock) run token count (.remote kept, entropy) :=
    watch_backend activates orderly rfl rfl readable (shell.polls config)
  have made := (kept.fetched_makes run token count).requests
  refine ⟨count, ?_⟩
  rw [follow_requests_eq, left, Gateway.fetchedFrom_remote, requests_keepGateway, made,
    List.append_assoc]

end CommandLine.Shell

end OtcDesk
