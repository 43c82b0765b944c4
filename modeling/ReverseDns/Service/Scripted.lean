import ReverseDns.Program

/-!
# Scripted services

A service whose next answers are laid down beforehand, in front of another service.

* `Cue` -- what happens at one call
* `Service.scripted` -- the service; once the script is at its end, the other service answers
-/

namespace ReverseDns

/-- What happens at one call. -/
inductive Cue where
  /-- The service behind the script answers. -/
  | pass
  /-- The call throws. -/
  | fail (thrown : Thrown)
  /-- The call has this reply; the service behind the script does not see it. -/
  | answer (reply : Reply)

/-- A script in front of a service. -/
structure Scripted (σ : Type) where
  script : List Cue
  behind : σ

def Service.scripted {σ : Type} (service : Service σ) : Service (Scripted σ) where
  serve request state :=
    let pass (rest : List Cue) : Response (Scripted σ) :=
      let response := service.serve request state.behind
      { answer := response.answer, overheard := response.overheard,
        state := { script := rest, behind := response.state } }
    match state.script with
    | [] => pass []
    | .pass :: rest => pass rest
    | .fail thrown :: rest => { answer := .error thrown, state := { state with script := rest } }
    | .answer reply :: rest => { answer := .ok reply, state := { state with script := rest } }
  prepare number config state :=
    let (outcome, behind) := service.prepare number config state.behind
    (outcome, { state with behind := behind })

end ReverseDns
