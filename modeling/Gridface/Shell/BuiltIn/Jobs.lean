import Gridface.Shell.BuiltIn

/-!
# Jobs

The commands that were not waited for, as the shell knows them: by numbers, of which the least free
one is taken for each command that runs in a process of its own, and by the order in which they were
started.
-/

namespace Gridface.Shell

open Text

namespace Job

/-- The numbers of jobs that may be taken from them. -/
def isFree (j : Job) : Bool := j.isOver && j.isAwaited

/-- What has become of a job. -/
def state (j : Job) : Octets :=
  if !j.isOver then "Running"
  else
    match j.ending with
    | .exited 0 => "Done"
    | .exited status => s!"Done({status})"
    | .killed signal => Signal.description signal

/-- A job as it is shown: `mark` tells the last one and the one before it. -/
def line (mark : Char) (j : Job) : Octets :=
  let text := s!"[{j.slot}] {mark} {j.state}"
  let blanks := List.replicate (max 1 (33 - text.length)) ' '
  text ++ String.ofList blanks ++ String.join (List.replicate (j.size - 1) " | ") ++ "\n"

end Job

namespace Run

/-! ## Numbers -/

/-- The least number that no job has, or that can be taken from one; and the jobs without that one.
At most so many numbers are tried. -/
def leastSlot (jobs : List Job) : Nat → Nat → Nat × List Job
  | 0, slot => (slot, jobs)
  | fuel + 1, slot =>
    match jobs.find? (·.slot == slot) with
    | none => (slot, jobs)
    | some job =>
      if job.isFree then (slot, jobs.filter (·.slot != slot)) else leastSlot jobs fuel (slot + 1)

/-- Takes a number for a command in a process of its own. -/
def takeSlot : Run Nat := do
  let s ← get
  let (slot, jobs) := leastSlot s.jobs s.jobs.length 1
  set { s with jobs }
  return slot

/-- Notes that all jobs have ended. -/
def endJobs : Run Unit :=
  modify fun s => { s with jobs := s.jobs.map ({ · with isOver := true }) }

/-- The jobs with one of them changed. -/
def changeJob (slot : Nat) (change : Job → Job) : Run Unit :=
  modify fun s => { s with jobs := s.jobs.map fun j => if j.slot = slot then change j else j }

/-! ## Finding -/

/-- The job that a word names by a percent sign and a number or a mark. The words of jobs are not
kept, so that a part of them is part of a job only if it is empty. -/
def jobNamed (word : Octets) : Run Job := do
  let jobs := (← get).jobs
  let missing {α : Type} : Run α := fail s!"No such job: {word}"
  let current : Run Job := (jobs.head?).elim (fail "No current job") pure
  match word.toList with
  | ['%'] => current
  | ['%', '+'] => current
  | ['%', '%'] => current
  | ['%', '-'] => (jobs[1]?).elim (fail "No previous job") pure
  | '%' :: cs =>
    let found := (jobs.find? fun j => cs == (toString j.slot).toList).filter fun _ => !cs.isEmpty
    match found, cs with
    | some job, _ => return job
    | none, ['?'] =>
      match jobs with
      | [] => missing
      | [job] => return job
      | _ => fail s!"{word}: ambiguous"
    | none, _ => missing
  | _ => missing

/-! ## Commands -/

/-- Shows a job. One that has ended is not known any more. -/
def jobText (job : Job) : Run Octets := do
  let s ← get
  let rank := s.jobs.findIdx (·.slot == job.slot)
  if job.isOver then set { s with jobs := s.jobs.filter (·.slot != job.slot) }
  return job.line (if rank = 0 then '+' else if rank = 1 then '-' else ' ')

/-- Shows jobs, or the numbers of their processes. -/
def showJobs : BuiltIn := fun arguments => do
  let (options, words) ← readOptions "lp" "" arguments
  let text (job : Job) : Run Octets :=
    if options.any (·.1 == 'p') then return s!"{job.process}\n" else jobText job
  if words.isEmpty then say (String.join (← (← get).jobs.mapM text))
  else
    words.foldlM (fun _ word => do say (← text (← jobNamed word))) 0

/-- Refuses to move a job to the fore or to the background: no job is controlled. -/
def moveJob : BuiltIn := fun arguments => do
  let words ← withoutOptions arguments
  let word := words.headD "%"
  discard (jobNamed word)
  let shown := words.headD "(null)"
  fail s!"job {shown} not created under job control"

/-- Waits for the job with a process, or that a word names; `status` is the result if there is none.
-/
def awaitJob (status : Nat) (word : Octets) : Run Nat := do
  let job? ←
    if word.toList.head? == some '%' then some <$> jobNamed word
    else
      let process ← number word
      pure ((← get).jobs.find? (·.process == process))
  match job? with
  | none => return status
  | some job =>
    changeJob job.slot ({ · with isOver := true, isAwaited := true })
    if !job.isOver then noteEnded
    if job.isOver then return statusOf job.ending else describeEnding job.ending

/-- Waits for commands, which have all ended. -/
def awaitJobs : BuiltIn := fun arguments => do
  let words ← withoutOptions arguments
  if words.isEmpty then
    if (← get).jobs.any (!·.isOver) then noteEnded
    modify fun s => { s with jobs := s.jobs.map ({ · with isOver := true, isAwaited := true }) }
    return 0
  else words.foldlM awaitJob 127

end Run

end Gridface.Shell
