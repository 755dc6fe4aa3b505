import CartBoot.Proofs.CommandLine.Stream
import CartBoot.Proofs.Report.Listing
import CartBoot.Proofs.Report.Terse

/-!
# The outcome of a batch

A batch without a log file leaves its files alone, so each of its images is judged by its own file
and the options. What the batch prints is put together from these judgements in the order of the
images, and a batch that is to fail fast is the batch of the images up to the first refused one.
-/

namespace CartBoot

namespace CommandLine

/-- Files of a workspace that a run only reads. -/
def Workspace.files (w : Workspace) : Files :=
  fun _ image => w.read (.ofString image)

/-- Why an image is not analysed. -/
structure Refusal where
  stage : String
  message : String
  deriving DecidableEq, Repr

section Judgement

variable (host : Host) (w : Workspace) (o : Options) (text : Profile → Text)

/-- What is printed about a profile: its terse record or its report. -/
def Options.body (p : Profile) : Text := if o.terse then p.terse else text p

/-- What the standard output gets for the image at an index. -/
def Options.printed (index : Nat) : Except Refusal Profile → Text
  | .ok p => (if o.terse || index = 0 then [] else ("\n" : Text)) ++ o.body text p ++ ("\n" : Text)
  | .error _ => []

end Judgement

variable {host : Host} {w : Workspace} {o : Options} {text : Profile → Text}

namespace Entry

variable {image : String} (index : Nat) (past : List Event)

section Output

variable {p : Profile} (written : o.terse = true ∨ report host o p = .ok (text p))
include written

end Output

end Entry

/-! ## Batches -/

namespace Batch

section Step

variable {files : Files} {image : String} {index : Nat} {past : List Event} (rest : List String)

end Step

end Batch

/-! ## Runs -/

section LeastImage

variable (media : Word)

end LeastImage

end CommandLine

end CartBoot
