import Wordsmith.Machine.Descent

/-!
# Runs

A run takes steps until there is no frame left or a step fails. It begins with a coherent machine,
so every machine that it comes to is coherent, and each is lower than the one before: it ends in any
case.
-/

namespace Wordsmith

/-- What a run ends with. Flags and subroutines outlive it, also if it failed. -/
structure Outcome where
  result : Except RunError Output
  flags : List String
  subroutines : Named Subroutine

namespace Machine

variable {s : Setting}

instance : WellFoundedRelation (Machine s) := ⟨Lower, wellFounded_lower⟩

/-- Runs to the end. What outlives the run is put aside before each step, so that the step can
change the machine in place. -/
def finishRun (m : Machine s) (hm : m.Coherent) : Outcome :=
  let flags := m.registers.flags
  let subroutines := m.registers.subroutines
  match _hframes : m.frames with
  | [] => ⟨.ok (m.results.headD ⟨[]⟩), flags, subroutines⟩
  | _ :: _ =>
    match hstep : m.step with
    | .error e => ⟨.error e, flags, subroutines⟩
    | .ok m' => m'.finishRun (hm.step.of_ok m' hstep)
termination_by m
decreasing_by exact (hm.step_lower _hframes).of_ok _ hstep

/-- Runs a passage in a frame of its own. -/
def runPassage (s : Setting) (r : Registers) (hr : r.Idle) (p : Passage) : Outcome :=
  match hstart : (initial s r).push p true [] [] with
  | .error e => ⟨.error e, r.flags, r.subroutines⟩
  | .ok m => m.finishRun ((coherent_start hr p).of_ok m hstart)

end Machine

end Wordsmith
