import OtcDesk.Backend.Practice

namespace OtcDesk.Practice

/-- The snapshot for a fetch, counted from zero. -/
def snapshotAt : Json → List Json → Nat → Json
  | snapshot, [], _ | snapshot, _, 0 => snapshot
  | _, next :: later, fetch + 1 => snapshotAt next later fetch

/-- The answer that shows one job of a run. -/
def showing (run : String) (job : ProofJob) : ProofJobsByRun where
  found := true
  workflowRunId := run
  jobs := [job]
  errorCode := none
  reason := "ok"

/-- The answer to the fetch of a number, counted from zero. -/
def answerAt (run : String) (now : Int) (practice : Practice) (fetch : Nat) :
    Except Failure ProofJobsByRun :=
  match practice.proofSnapshots with
  | [] => .ok (showing run (jobAt run now (min (practice.polls + fetch) 2)))
  | snapshot :: later =>
    Backend.readAnswer ProofJobsByRun.ofPayload (snapshotAt snapshot later fetch) "proof-jobs fetch"

variable {clock : Clock} {now : Int}

/-- A fetch is answered with the first of the coming answers. -/
theorem fetchProofJobs_answer (reads : clock.seconds = .ok now) (run : String) (state : State) :
    (fetchProofJobs clock run state).1 = answerAt run now state.1 0 := by
  obtain ⟨practice, entropy⟩ := state
  unfold fetchProofJobs answerAt note
  cases snapshots : practice.proofSnapshots with
  | nil => simp [snapshots, reads, showing, progression]
  | cons snapshot later => cases later <;> simp [snapshotAt, snapshots]

/-- A fetch leaves the answers that come after its own. -/
theorem fetchProofJobs_later (reads : clock.seconds = .ok now) (run : String) (state : State)
    (fetch : Nat) :
    answerAt run now (fetchProofJobs clock run state).2.1 fetch =
      answerAt run now state.1 (fetch + 1) := by
  obtain ⟨practice, entropy⟩ := state
  unfold fetchProofJobs note
  cases snapshots : practice.proofSnapshots with
  | nil =>
      have sum : practice.polls + 1 + fetch = practice.polls + (fetch + 1) := by omega
      simp [answerAt, snapshots, reads, sum]
  | cons snapshot later => cases later <;> simp [answerAt, snapshotAt, snapshots]

end OtcDesk.Practice
