import Mathlib
import Giskard.Foundation.Schedule
import Giskard.Analysis.TurnModes
import Giskard.Analysis.HandOffReplies

/-!
# Runs of a supervisor and its CLI

Every run keeps the lines, the mode and the tickets in order. So a turn is handled under its own
permission mode, one hand-off at most is in flight, no user line falls into another turn, and
every hand-off has one reply, a success just where its user line is on stdin.
-/

set_option autoImplicit false

namespace Giskard.Claude

open Foundation

namespace Session

variable (s : Session)

/-- The answers that a caller got. -/
def answersTo (reply : Ticket) : List Answer :=
  (s.replies.filter fun entry => entry.1 = reply).map Prod.snd

/-- A hand-off that the supervisor has taken and not answered, its caller still waiting. -/
def InFlight (reply : Ticket) : Prop :=
  reply ∈ s.handOffs ∧ (∀ command ∈ s.queue, command.handOff ≠ some reply) ∧
    reply ∉ s.closed ∧ s.answersTo reply = []

/-- A hand-off that still waits in the queue, or is the one the supervisor works on. -/
def Waits (reply : Ticket) : Prop :=
  (∃ command ∈ s.queue, command.handOff = some reply) ∨
    ∃ setup, s.turnSetup = some setup ∧ setup.reply = reply

/-- One answer, or none for a caller that gave up. -/
def Settled (reply : Ticket) : Prop :=
  (∃ answer, s.answersTo reply = [answer]) ∨ s.answersTo reply = [] ∧ reply ∈ s.closed

/-- The user line of a hand-off is on stdin. -/
def UserLine (reply : Ticket) : Prop :=
  ∃ line turn settings active, StdinLine.user line (.startTurn turn settings reply) active ∈ s.stdin

variable {s}

theorem mem_held (ends : s.Over) {reply : Ticket} : reply ∈ s.office.held ↔ s.Waits reply := by
  have taken : s.taken.filterMap ChildCommand.handOff = [] :=
    List.filterMap_eq_nil_iff.2 ends.answers
  unfold office inFlight waiting Waits
  dsimp only
  rw [List.filterMap_append, taken, List.append_nil, List.mem_append, List.mem_filterMap, or_comm]
  simp

theorem userLine_iff {reply : Ticket} : reply ∈ s.office.served ↔ s.UserLine reply := by
  unfold office UserLine
  dsimp only
  rw [List.mem_filterMap]
  constructor
  · rintro ⟨line, there, named⟩
    match line, named with
    | .user text (.startTurn turn settings _) active, rfl =>
      exact ⟨text, turn, settings, active, there⟩
  · rintro ⟨line, turn, settings, active, there⟩
    exact ⟨_, there, rfl⟩

theorem inFlight_unique (sound : s.office.Sound .done) (ends : s.Over) {first second : Ticket}
    (one : s.InFlight first) (two : s.InFlight second) : first = second := by
  have current {reply : Ticket} (flies : s.InFlight reply) :
      ∃ setup, s.turnSetup = some setup ∧ setup.reply = reply := by
    obtain ⟨called, left, waits, none⟩ := flies
    have held : reply ∈ s.office.held := by
      by_contra free
      rcases sound.settled reply called free with ⟨answer, given⟩ | ⟨_, gone⟩
      · have none : s.office.answersTo reply = [] := none
        rw [none] at given
        cases given
      · exact waits gone
    rcases (mem_held ends).1 held with ⟨command, there, named⟩ | current
    · exact absurd named (left command there)
    · exact current
  obtain ⟨setup, here, rfl⟩ := current one
  obtain ⟨other, there, rfl⟩ := current two
  rw [here] at there
  rw [Option.some.inj there]

theorem turnSetup_deadline (runs : s.Running) (serves : s.phase = .serving) (waited : String) :
    (s.step (.deadline waited)).turnSetup = none := by
  have step : s.step (.deadline waited) = s.onSetupDeadline waited := by
    simp [step, loopStep, onDeadline, runs.1, runs.2, serves]
  have none : (s.onSetupDeadline waited).lane.turnSetup = none := by
    unfold onSetupDeadline
    rw [lane_abandonSetup]
  rw [step]
  exact none

theorem mayDrop_always (s : Session) (label : Session.Step) : s.MayDrop (fun _ => True) label := by
  have along (outputs : List MapperOutput) (t : Session) :
      AlongDispatch (MayFail fun _ => True) t outputs := by
    induction outputs generalizing t with
    | nil => trivial
    | cons output rest ih =>
      refine ⟨?_, fun _ => ih _⟩
      cases output with
      | controlResponse requestId payload => exact fun _ _ _ _ _ _ => trivial
      | _ => trivial
  cases label with
  | line mapper outputs => exact fun _ => along outputs _
  | settle mapper outputs => exact fun _ => along outputs _
  | deadline waited => exact fun _ _ _ _ _ => trivial
  | _ => trivial

theorem asks_always (command : ChildCommand) : command.Asks fun _ _ => True := by
  cases command <;> trivial

end Session

namespace World

variable {w : World}

/-- What every run keeps. -/
structure Kept (w : World) : Prop where
  ordered : w.session.lane.Ordered w.cli
  mode : w.session.lane.ModeKept w.cli
  tickets : w.session.office.Sound .done
  ends : w.session.Over

theorem outputs_genuine {label : Session.Step} (genuine : w.genuine label = true)
    (mapper : MapperView) (outputs : List MapperOutput)
    (same : label = .line mapper outputs ∨ label = .settle mapper outputs) :
    outputs.all (Genuine w.cli.answers) := by
  rcases same with rfl | rfl
  · exact genuine
  · exact genuine

theorem moves_kept {lane next : Lane} {cli : Cli} {may : Lane → Prop}
    {fair : ModelRef → TurnSettings → Prop} (ordered : lane.Ordered cli) (kept : lane.ModeKept cli)
    (moves : Lane.Moves cli.answers may fair lane next) : next.Ordered cli ∧ next.ModeKept cli := by
  induction moves with
  | refl => exact ⟨ordered, kept⟩
  | tail _ move ih => exact ⟨ih.1.move move, ih.2.move ih.1 move⟩

theorem unhandled_of_nextLine {line : StdinLine} (next : w.nextLine = some line) :
    ∃ rest, w.session.lane.unhandled w.cli = line :: rest := by
  obtain ⟨inside, here⟩ := List.getElem?_eq_some_iff.1 next
  refine ⟨w.session.stdin.drop (w.cli.handled + 1), ?_⟩
  unfold Lane.unhandled Session.lane
  dsimp only
  rw [List.drop_eq_getElem_cons inside, here]

theorem Kept.step (kept : w.Kept) (label : WorldStep) : (w.step label).Kept := by
  cases label with
  | session label =>
    unfold World.step
    dsimp only
    split
    · next genuine =>
      have moves : Lane.Moves w.cli.answers (fun _ => True) (fun _ _ => True) w.session.lane
          (w.session.step label).lane :=
        Session.moves_step (outputs_genuine genuine) (w.session.mayDrop_always label)
          fun command _ => Session.asks_always command
      obtain ⟨ordered, mode⟩ := moves_kept kept.ordered kept.mode moves
      exact ⟨ordered, mode, (w.session.steps_step label).sound kept.tickets, kept.ends.step label⟩
    · exact kept
  | cli verdict =>
    unfold World.step
    dsimp only
    split
    · next line next =>
      obtain ⟨rest, there⟩ := unhandled_of_nextLine next
      exact ⟨kept.ordered.handle there, kept.mode.handle kept.ordered there, kept.tickets,
        kept.ends⟩
    · exact kept

/-- A supervisor at its start, in front of a CLI that has handled nothing. -/
def spawn (thread : ThreadId) (mapper : MapperView) (model entryModel : ModelRef) (mode held : String)
    (effort : Option String) : World where
  session := Session.spawn thread mapper model entryModel
  cli := ⟨mode, held, effort, 0, []⟩

theorem kept_spawn (thread : ThreadId) (mapper : MapperView) (model entryModel : ModelRef)
    (mode held : String) (effort : Option String) :
    (spawn thread mapper model entryModel mode held effort).Kept where
  ordered := ⟨Nat.zero_le _, fun _ there => (by cases there), List.nodup_nil,
    fun _ there => (by cases there)⟩
  mode := ⟨trivial, fun _ current => (by cases current), fun _ current => (by cases current),
    fun _ _ _ there => (by cases there)⟩
  tickets := by
    have none : { ticket | (Session.spawn thread mapper model entryModel).Holds ticket } = ∅ := by
      ext ticket
      refine ⟨?_, False.elim⟩
      rintro (⟨command, there, _⟩ | ⟨entry, there, _⟩ | there | ⟨ending, there, _⟩)
      · cases there
      · cases there
      · cases there
      · cases there
    have empty : (Session.spawn thread mapper model entryModel).office =
        ⟨0, [], [], { ticket | (Session.spawn thread mapper model entryModel).Holds ticket }, ∅, [],
          []⟩ := rfl
    rw [none] at empty
    exact empty ▸ TicketOffice.sound_empty ∅
  ends := ⟨fun _ there => (by cases there), fun exited => (by cases exited)⟩

/-- The hand-offs of turns in one state of a run. -/
structure HandOffsKept (w : World) : Prop where
  /-- The CLI handles a turn's user line in the turn's own mode. -/
  mode : ∀ line turn settings reply active,
    w.nextLine = some (.user line (.startTurn turn settings reply) active) →
      w.cli.mode = settings.mode
  /-- At most one is in flight. -/
  single : ∀ first second, w.session.InFlight first → w.session.InFlight second → first = second
  /-- No user line is written into a turn. -/
  quiet : ∀ line prompt active, .user line prompt active ∈ w.session.stdin → active = none
  /-- A hand-off waits, unanswered, or has its one reply; once the supervisor is gone, the
  latter. -/
  replied : ∀ reply ∈ w.session.handOffs,
    w.session.exited = false ∧ w.session.Waits reply ∧ w.session.answersTo reply = [] ∨
      w.session.Settled reply
  /-- The one in flight does not outlive its deadline. -/
  expires : ∀ waited, w.session.Running → w.session.phase = .serving →
    (w.session.step (.deadline waited)).turnSetup = none
  /-- The reply is a success where the user line was written. -/
  exact : ∀ reply ∈ w.session.handOffs,
    .done ∈ w.session.answersTo reply ↔ w.session.UserLine reply

theorem Kept.handOffs (kept : w.Kept) : w.HandOffsKept where
  mode line turn settings reply active next := by
    obtain ⟨rest, there⟩ := unhandled_of_nextLine next
    have runs := kept.mode.runs
    rw [there] at runs
    exact (runs.2.1 settings rfl).symm
  single first second := Session.inFlight_unique kept.tickets kept.ends
  quiet := kept.mode.alone
  replied reply called := by
    by_cases held : reply ∈ w.session.office.held
    · have waits := (Session.mem_held kept.ends).1 held
      refine Or.inl ⟨?_, waits, (kept.tickets.silent reply held).1⟩
      cases exited : w.session.exited with
      | false => rfl
      | true =>
        obtain ⟨empty, free⟩ := kept.ends.nothing exited
        rcases waits with ⟨command, there, _⟩ | ⟨setup, current, _⟩
        · rw [empty] at there
          cases there
        · rw [free] at current
          cases current
    · exact Or.inr (kept.tickets.settled reply called held)
  expires waited runs serves := Session.turnSetup_deadline runs serves waited
  exact reply called := (kept.tickets.exact reply called).trans Session.userLine_iff

/-- A turn is never handled under another turn's permission mode, over every run of a supervisor
and its CLI. -/
theorem turns_keep_their_modes (thread : ThreadId) (mapper : MapperView)
    (model entryModel : ModelRef) (mode held : String) (effort : Option String)
    (schedule : List WorldStep) :
    (Schedule.run World.step (spawn thread mapper model entryModel mode held effort)
      schedule).HandOffsKept := by
  apply Kept.handOffs
  apply Foundation.Schedule.run_preserves (kept_spawn thread mapper model entryModel mode held effort)
  exact fun w label kept => kept.step label

end World

end Giskard.Claude
