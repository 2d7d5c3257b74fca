import Mathlib
import Giskard.Model.ClaudeSession

/-!
# The CLI behind a supervisor

The process at the other end of the supervisor's stdin: it handles the lines in order, holds a
permission mode, a model and an effort, and accepts or refuses every control request as it likes.
Its answers are kept; a line of its stdout may bring any of them, once or more, at any later
time, or never.

The CLI is not part of the repository: this is the documented behaviour of the requests that the
supervisor sends.
-/

set_option autoImplicit false

namespace Giskard.Claude

open Foundation (Json)

/-- What the CLI makes of a control request: accepted, with its payload and with the model and
the effort that hold afterwards where the request may change them, or refused. -/
inductive Verdict where
  | accept (response : Json) (model : String) (effort : Option String)
  | refuse (message : Option String) (code : Option String)
  deriving DecidableEq

/-- What the CLI holds, how many lines it has handled, and the answers it has given. -/
structure Cli where
  mode : String
  model : String
  effort : Option String
  handled : ℕ
  answers : List (ControlId × ControlPayload)

namespace Cli

variable (cli : Cli)

/-- The payload of `get_settings`. -/
def settings : Json :=
  .obj [("applied", .obj [("model", .str cli.model),
    ("effort", match cli.effort with
      | some effort => .str effort
      | none => .null)])]

def answer (id : ControlId) (payload : ControlPayload) : Cli :=
  { cli with answers := cli.answers ++ [(id, payload)] }

/-- An accepted request. The mode changes by `set_permission_mode`, the model by `set_model`, the
effort by `apply_flag_settings` or with the model; the settings are reported as they are. -/
def accept (id : ControlId) (request : ControlRequest) (response : Json) (model : String)
    (effort : Option String) : Cli :=
  match request with
  | .setPermissionMode mode => ({ cli with mode := mode }).answer id (.success response)
  | .setModel _ =>
    ({ cli with model := model, effort := effort }).answer id (.success response)
  | .applyFlagSettings _ => ({ cli with effort := effort }).answer id (.success response)
  | .getSettings => cli.answer id (.success cli.settings)
  | .interrupt | .stopTask _ | .renameSession _ | .mcpStatus => cli.answer id (.success response)

/-- The next line of stdin. -/
def handle (line : StdinLine) (verdict : Verdict) : Cli :=
  let cli := { cli with handled := cli.handled + 1 }
  match line, verdict with
  | .control id request, .accept response model effort => cli.accept id request response model effort
  | .control id _, .refuse message code => cli.answer id (.error message code)
  | .response _ _, _ | .user _ _ _, _ => cli

end Cli

/-- A supervisor and its CLI. -/
structure World where
  session : Session
  cli : Cli

inductive WorldStep where
  | session (label : Session.Step)
  | cli (verdict : Verdict)

namespace World

variable (w : World)

/-- An output that is no answer of the CLI's making up. -/
def Genuine (answers : List (ControlId × ControlPayload)) : MapperOutput → Bool
  | .controlResponse requestId payload => (requestId, payload) ∈ answers
  | _ => true

/-- The control responses among a step's outputs are answers that the CLI gave. -/
def genuine : Session.Step → Bool
  | .line _ outputs | .settle _ outputs => outputs.all (Genuine w.cli.answers)
  | _ => true

/-- The line the CLI handles next. -/
def nextLine : Option StdinLine := w.session.stdin[w.cli.handled]?

/-- One step of the façade or the supervisor, or the CLI handles a line. -/
def step : WorldStep → World
  | .session label => if w.genuine label then { w with session := w.session.step label } else w
  | .cli verdict =>
    match w.nextLine with
    | some line => { w with cli := w.cli.handle line verdict }
    | none => w

end World

end Giskard.Claude
