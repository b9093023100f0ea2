import StaticSite.Markdown.Render
import StaticSite.Page.Context

/-!
# Rendering documents

Most documents are rendered here; one that asks for the converter is given to that program.
All programs are started before the first result is taken, so a program that cannot be
started is reported before one that fails.
-/

namespace StaticSite

namespace Build

def converter : Text := "pandoc"

def isConverted (job : Job) : Bool := job.renderer == converter

/-- The first job whose program cannot be started. -/
def firstUnstarted? (programs : List Text) (jobs : List Job) : Option Job :=
  if converter ∈ programs then none else jobs.find? isConverted

def renderStarted (convert : Text → Except Nat Text) (job : Job) : Except Fault Text :=
  if isConverted job then
    match convert job.body with
    | .ok html => .ok (Text.unifyLineEnds html)
    | .error status =>
      .error (.site (.renderer job.source.text
        (converter ++ " exited with status " ++ Text.ofNat status)))
  else (Markdown.render job.body).mapError Fault.listing

/-- The results of jobs that were started, in the order of the jobs. -/
def collectResults (convert : Text → Except Nat Text) :
    List Job → Except Fault (List (Job × Text))
  | [] => .ok []
  | job :: jobs => do
    let html ← renderStarted convert job
    return (job, html) :: (← collectResults convert jobs)

def renderAll (programs : List Text) (convert : Text → Except Nat Text) (jobs : List Job) :
    Except Fault (List (Job × Text)) :=
  match firstUnstarted? programs jobs with
  | some job =>
    .error (.site (.renderer job.source.text
      (FileFault.refused .missing converter).message))
  | none => collectResults convert jobs

end Build

end StaticSite
