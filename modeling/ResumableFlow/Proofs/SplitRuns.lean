import ResumableFlow.Proofs.StoredRuns

/-!
# Runs in parts

A run that is followed by another one comes to what one run with the calls of both would have come
to (`Deployment.advance_add`). Nothing is lost between the two: what the second one loads is the
very instance that the first one would have gone on from.
-/

namespace ResumableFlow
namespace Deployment

open Console

variable {flow : Flow Deployment String} {file : String}

/-! ## Adding calls -/

theorem advanceFrom_add (more : Nat) :
    ∀ (calls : Nat) (directory : Directory) (document : Document),
    Document.loadFrom directory file = .ok document →
    (advanceFrom flow file calls directory document).1 = .success →
    advance flow file more (advanceFrom flow file calls directory document).2 =
      advanceFrom flow file (calls + more) directory document := by
  intro calls
  induction calls with
  | zero =>
    intro directory document loaded _
    rw [advanceFrom_idle rfl, Nat.zero_add, advance, loaded]
  | succ calls ih =>
    intro directory document loaded succeeds
    by_cases done : flow.isCompleted document.state = true
    · -- The second run finds the flow completed.
      have idle : ∀ calls, advanceFrom flow file calls directory document = (.success, directory) :=
        fun calls => advanceFrom_idle (flow.drive_of_isCompleted _ calls done)
      rw [idle, idle, advance, loaded]
      exact idle more
    rcases saved : Document.saveTo directory file (.ofInstance (flow.call document.toInstance).2)
      with ⟨error | _, changed⟩
    · rw [advanceFrom_unsaved done saved] at succeeds
      cases succeeds
    obtain ⟨temporary, target, stores⟩ := Document.storesAt_of_saveTo (congrArg Prod.fst saved)
    rcases called : flow.call document.toInstance with ⟨error | state, next⟩
    · rw [advanceFrom_failed stores done called] at succeeds
      cases succeeds
    · rw [advanceFrom_called stores done called] at succeeds ⊢
      rw [Nat.add_right_comm, advanceFrom_called stores done called]
      exact ih _ _ (stores.loadFrom_stored _) succeeds

/-- A run that succeeds and another one after it are one run with the calls of both. -/
theorem advance_add (calls more : Nat) (directory : Directory)
    (succeeds : (advance flow file calls directory).1 = .success) :
    advance flow file more (advance flow file calls directory).2 =
      advance flow file (calls + more) directory := by
  rcases loaded : Document.loadFrom directory file with error | document
  · rw [advance, loaded] at succeeds
    cases succeeds
  · have from_ : ∀ calls, advance flow file calls directory =
        advanceFrom flow file calls directory document := by
      intro calls
      rw [advance, loaded]
    rw [from_] at succeeds
    rw [from_ calls, from_ (calls + more)]
    exact advanceFrom_add more calls directory document loaded succeeds

theorem advance_zero (directory : Directory) : (advance flow file 0 directory).2 = directory := by
  rw [advance]
  rcases Document.loadFrom directory file with error | document
  · rfl
  · simp only
    rw [advanceFrom_idle rfl]

/-- A run of one call that succeeds. -/
theorem advance_one {directory : Directory} {temporary target : Place} {document : Document}
    {next : Instance Deployment} {state : State}
    (loaded : Document.loadFrom directory file = .ok document)
    (stores : directory.StoresAt file temporary target)
    (pending : ¬flow.isCompleted document.state = true)
    (called : flow.call document.toInstance = (.ok state, next)) :
    advance flow file 1 directory =
      (.success, directory.stored temporary target (Document.ofInstance next).text) := by
  rw [advance, loaded]
  simp only
  rw [advanceFrom_called stores pending called, advanceFrom_idle rfl]

/-! ## Command lines in a row -/

theorem mapM_perform_cons {environment : Environment} {line : List String} {desk after : Desk}
    {exit : Exit} (performed : perform Desk.host environment line desk = (exit, after))
    (lines : List (List String)) :
    (line :: lines).mapM (perform Desk.host environment) desk =
      (exit :: (lines.mapM (perform Desk.host environment) after).1,
        (lines.mapM (perform Desk.host environment) after).2) := by
  rw [List.mapM_cons]
  exact (Desk.bind_eq performed).trans rfl

/-- Runs of one call each, carried out in a row, are one run with as many calls. -/
theorem directory_of_plain_runs {environment : Environment}
    (compiles : Deployment.flow (configuration environment) = .ok flow) :
    ∀ (lines : List (List String)),
    (∀ line ∈ lines, ∃ interval calls, 0 < calls ∧
      AsksToRun environment line ⟨file, false, interval, calls⟩) →
    ∀ desk, (∀ exit ∈ (lines.mapM (perform Desk.host environment) desk).1, exit = .success) →
      (lines.mapM (perform Desk.host environment) desk).2.directory =
        (advance flow file lines.length desk.directory).2
  | [], _, desk, _ => by
    rw [List.length_nil, advance_zero]
    rfl
  | line :: lines, asks, desk, succeed => by
    obtain ⟨interval, calls, some, asksLine⟩ := asks line List.mem_cons_self
    obtain ⟨printed, performed⟩ := perform_advances asksLine compiles desk
    have single : RunOptions.calls ⟨file, false, interval, calls⟩ calls = 1 := by
      show min calls 1 = 1
      omega
    simp only [single] at performed
    rw [mapM_perform_cons performed] at succeed ⊢
    have first := succeed _ List.mem_cons_self
    rw [directory_of_plain_runs compiles lines
      (fun line mem => asks line (List.mem_cons_of_mem _ mem)) _
      fun exit mem => succeed exit (List.mem_cons_of_mem _ mem)]
    simp only
    rw [advance_add 1 lines.length desk.directory first, Nat.add_comm, List.length_cons]

/-- Runs can be cut anywhere. What a run leaves that follows the flow and succeeds, another one
takes up so that both together end as one run with the calls of both, with the same error if there
is one, and leave the same directory. Runs of a single call in a row, if all of them succeed, leave
the directory that one run with as many calls leaves. -/
theorem split_runs {environment : Environment} {file : String} :
    (∀ {first second whole : List String} {i j k calls more : Nat},
      AsksToRun environment first ⟨file, true, i, calls⟩ →
      AsksToRun environment second ⟨file, true, j, more⟩ →
      AsksToRun environment whole ⟨file, true, k, calls + more⟩ → ∀ desk,
      (perform Desk.host environment first desk).1 = .success →
      let between := (perform Desk.host environment first desk).2
      (perform Desk.host environment second between).1 =
          (perform Desk.host environment whole desk).1 ∧
        (perform Desk.host environment second between).2.directory =
          (perform Desk.host environment whole desk).2.directory) ∧
    ∀ {lines : List (List String)} {whole : List String} {k : Nat},
      (∀ line ∈ lines, ∃ interval calls, 0 < calls ∧
        AsksToRun environment line ⟨file, false, interval, calls⟩) →
      AsksToRun environment whole ⟨file, true, k, lines.length⟩ → ∀ desk,
      (∀ exit ∈ (lines.mapM (perform Desk.host environment) desk).1, exit = .success) →
      (lines.mapM (perform Desk.host environment) desk).2.directory =
        (perform Desk.host environment whole desk).2.directory := by
  obtain ⟨flow, compiles⟩ := exists_flow (configuration environment)
  constructor
  · intro first second whole i j k calls more asksFirst asksSecond asksWhole desk succeeds
    obtain ⟨printed, performed⟩ := perform_advances asksFirst compiles desk
    rw [performed] at succeeds ⊢
    obtain ⟨_, performedSecond⟩ := perform_advances asksSecond compiles
      ⟨(advance flow file calls desk.directory).2, printed⟩
    obtain ⟨_, performedWhole⟩ := perform_advances asksWhole compiles desk
    have added : advance flow file more (advance flow file calls desk.directory).2 =
        advance flow file (calls + more) desk.directory :=
      advance_add calls more desk.directory succeeds
    simp only [RunOptions.calls, if_true] at performedSecond performedWhole ⊢
    rw [performedSecond, performedWhole, added]
    exact ⟨rfl, rfl⟩
  · intro lines whole k asks asksWhole desk succeed
    obtain ⟨_, performed⟩ := perform_advances asksWhole compiles desk
    rw [performed]
    exact directory_of_plain_runs compiles lines asks desk succeed

/-- In an empty directory, two calls in one run, in two runs that follow the flow and in two plain
runs all come to the same. -/
theorem split_runs_empty_directory : ∃ between,
    perform Desk.host [] ["run", "-f", "--max-calls", "1"] ⟨{}, ""⟩ = (.success, between) ∧
      (perform Desk.host [] ["run", "-f", "--max-calls", "1"] between).1 =
        (perform Desk.host [] ["run", "-f", "--max-calls", "2"] ⟨{}, ""⟩).1 ∧
      (perform Desk.host [] ["run", "-f", "--max-calls", "1"] between).2.directory =
        (perform Desk.host [] ["run", "-f", "--max-calls", "2"] ⟨{}, ""⟩).2.directory ∧
      ([["run"], ["run"]].mapM (perform Desk.host []) ⟨{}, ""⟩).2.directory =
        (perform Desk.host [] ["run", "-f", "--max-calls", "2"] ⟨{}, ""⟩).2.directory := by
  obtain ⟨flow, compiles⟩ := exists_flow (configuration [])
  have one : AsksToRun [] ["run", "-f", "--max-calls", "1"] ⟨"stepflow-state.json", true, 500, 1⟩ :=
    ⟨_, _, rfl⟩
  have two : AsksToRun [] ["run", "-f", "--max-calls", "2"] ⟨"stepflow-state.json", true, 500, 2⟩ :=
    ⟨_, _, rfl⟩
  have plain : AsksToRun [] ["run"] ⟨"stepflow-state.json", false, 500, 1000⟩ := ⟨_, _, rfl⟩
  have loaded : Document.loadFrom {} "stepflow-state.json" = .ok {} := rfl
  -- The first call provisions, the second one finds that the instance is not ready yet.
  obtain ⟨provisioned, checked, calledFirst, pending, calledSecond⟩ :
      ∃ provisioned checked : Document,
        flow.call (Document.toInstance {}) = (.ok provisioned.state, provisioned.toInstance) ∧
        ¬flow.isCompleted provisioned.state = true ∧
        flow.call provisioned.toInstance = (.ok checked.state, checked.toInstance) := by
    obtain rfl := Except.ok.inj compiles
    exact ⟨⟨⟨["completed:deploy/provision"]⟩, { machine := some "deploy-instance" }⟩,
      ⟨⟨["start:deploy/ready"]⟩, { machine := some "deploy-instance", readyChecks := 1 }⟩, rfl,
      by decide, rfl⟩
  have first := advance_one loaded storesAt_empty flow.not_isCompleted_empty calledFirst
  have second := advance_one (storesAt_empty.loadFrom_stored provisioned) storesAt_empty.stored
    pending calledSecond
  rw [Document.ofInstance_toInstance] at first
  obtain ⟨printed, performed⟩ := perform_advances one compiles ⟨{}, ""⟩
  simp only [RunOptions.calls, if_true, first] at performed
  have succeeds := congrArg Prod.fst performed
  obtain ⟨sameExit, sameDirectory⟩ := split_runs.1 one one two _ succeeds
  rw [performed] at sameExit sameDirectory
  have asks : ∀ line ∈ [["run"], ["run"]], ∃ interval calls, 0 < calls ∧
      AsksToRun [] line ⟨"stepflow-state.json", false, interval, calls⟩ := by
    intro line mem
    have eq : line = ["run"] := by simpa using mem
    rw [eq]
    exact ⟨500, 1000, by decide, plain⟩
  have whole : AsksToRun [] ["run", "-f", "--max-calls", "2"]
      ⟨"stepflow-state.json", true, 500, [["run"], ["run"]].length⟩ := two
  have succeed : ∀ exit ∈ ([["run"], ["run"]].mapM (perform Desk.host []) ⟨{}, ""⟩).1,
      exit = .success := by
    have single : RunOptions.calls ⟨"stepflow-state.json", false, 500, 1000⟩ 1000 = 1 := rfl
    obtain ⟨printed, performed⟩ := perform_advances plain compiles ⟨{}, ""⟩
    simp only [single, first] at performed
    obtain ⟨printed', performed'⟩ := perform_advances plain compiles
      ⟨Directory.stored {} ["home", "stepflow-state.json.tmp"] ["home", "stepflow-state.json"]
        provisioned.text, printed⟩
    simp only [single, second] at performed'
    rw [mapM_perform_cons performed, mapM_perform_cons performed']
    intro exit mem
    rcases List.mem_cons.mp mem with rfl | mem
    · rfl
    · exact List.mem_singleton.mp mem
  have inTurn := split_runs.2 asks whole ⟨{}, ""⟩ succeed
  exact ⟨_, performed, sameExit, sameDirectory, inTurn⟩

end Deployment
end ResumableFlow
