import ActionRehearsal.Proofs.Table
import ActionRehearsal.Proofs.Text.Search
import ActionRehearsal.Rehearsal.Mocks
import Mathlib.Logic.Function.Iterate

/-!
# What mocks know is what was called

A session is a program that calls mocks, and the handlers that its commands go to call them as well
while they run. `Moment` is a moment of a session, at which all calls made so far are written down
in order, whoever made them, and `Moment.next` goes on by one call: a command puts its caller on a
stack and starts a handler, and the reply of a handler takes its caller from the stack. The machine
ends where running the program ends (`Moment.reaches_run`).

The main statement, `session_history`, says what mocks know and do at every moment of a session, by
the calls alone. It rests on `Moment.Recorded`, which every step keeps.
-/

set_option autoImplicit false

namespace ActionRehearsal

open ActionRehearsal.Text Mocks

/-! ## Calls -/

/-- A call that changes mocks or executes a command. -/
inductive MockCall where
  | register (pattern : String) (handler : Handler)
  | setOutput (key value : String)
  | execute (command : String)
  | reset

namespace MockCall

/-- Whether a call makes the mocks forget. -/
def isReset : MockCall → Bool
  | .reset => true
  | _ => false

/-- The pattern and the handler that a call registers. -/
def registration? : MockCall → Option (String × Handler)
  | .register pattern handler => some (pattern, handler)
  | _ => none

/-- The key and the value that a call sets. -/
def setting? : MockCall → Option (String × String)
  | .setOutput key value => some (key, value)
  | _ => none

end MockCall

/-- The calls since the last reset. -/
def sinceReset (calls : List MockCall) : List MockCall :=
  calls.rtakeWhile fun call => !call.isReset

/-- What was registered since the last reset, in order. -/
def registrations (calls : List MockCall) : List (String × Handler) :=
  (sinceReset calls).filterMap MockCall.registration?

/-- The outputs that were set since the last reset, in order. -/
def outputSettings (calls : List MockCall) : List (String × String) :=
  (sinceReset calls).filterMap MockCall.setting?

/-- The handler that a command goes to after some calls: of the first registered pattern that
occurs in the command, the handler that was registered last. -/
def handlerAfter? (calls : List MockCall) (command : String) : Option Handler :=
  ((registrations calls).find? fun registration => command.holds registration.1).bind
    fun first => (registrations calls).reverse.lookup first.1

/-! ## What mocks know -/

section Calls

variable {calls : List MockCall}

/-- After a reset nothing counts that was called before. -/
theorem sinceReset_append_reset : sinceReset (calls ++ [.reset]) = [] := by
  rw [sinceReset, List.rtakeWhile_concat_neg]
  simp [MockCall.isReset]

/-- Any other call adds what it registers. -/
theorem registrations_append {call : MockCall} (keeps : call.isReset = false) :
    registrations (calls ++ [call]) = registrations calls ++ call.registration?.toList :=
  List.filterMap_rtakeWhile_concat (by simp [keeps]) _ _

/-- And it adds what it sets. -/
theorem outputSettings_append {call : MockCall} (keeps : call.isReset = false) :
    outputSettings (calls ++ [call]) = outputSettings calls ++ call.setting?.toList :=
  List.filterMap_rtakeWhile_concat (by simp [keeps]) _ _

/-- Whether the registry and the outputs are those of the calls since the last reset. -/
structure Mocks.Knows (m : Mocks) (calls : List MockCall) : Prop where
  handlers : m.handlers = .ofList (registrations calls)
  outputs : m.outputs = .ofList (outputSettings calls)

namespace Mocks.Knows

variable {m : Mocks}

theorem reset (m : Mocks) (calls : List MockCall) : m.reset.Knows (calls ++ [.reset]) := by
  constructor
  · rw [registrations, sinceReset_append_reset]
    rfl
  · rw [outputSettings, sinceReset_append_reset]
    rfl

theorem register (h : m.Knows calls) (pattern : String) (handler : Handler) :
    (m.register pattern handler).Knows (calls ++ [.register pattern handler]) := by
  constructor
  · rw [registrations_append rfl, MockCall.registration?, Option.toList_some,
      Table.ofList_append_singleton, ← h.handlers]
    rfl
  · rw [outputSettings_append rfl]
    simp only [MockCall.setting?, Option.toList_none, List.append_nil]
    exact h.outputs

theorem setOutput (h : m.Knows calls) (key value : String) :
    (m.setOutput key value).Knows (calls ++ [.setOutput key value]) := by
  constructor
  · rw [registrations_append rfl]
    simp only [MockCall.registration?, Option.toList_none, List.append_nil]
    exact h.handlers
  · rw [outputSettings_append rfl, MockCall.setting?, Option.toList_some,
      Table.ofList_append_singleton, ← h.outputs]
    rfl

/-- That a command is executed changes nothing by itself. -/
theorem execute (h : m.Knows calls) (command : String) : m.Knows (calls ++ [.execute command]) := by
  constructor
  · rw [registrations_append rfl]
    simp only [MockCall.registration?, Option.toList_none, List.append_nil]
    exact h.handlers
  · rw [outputSettings_append rfl]
    simp only [MockCall.setting?, Option.toList_none, List.append_nil]
    exact h.outputs

theorem patterns (h : m.Knows calls) :
    m.patterns = ((registrations calls).map (·.1)).eraseDups := by
  rw [Mocks.patterns, h.handlers, Table.keys_ofList]

theorem outputKeys (h : m.Knows calls) :
    m.outputs.keys = ((outputSettings calls).map (·.1)).eraseDups := by
  rw [h.outputs, Table.keys_ofList]

theorem getOutput (h : m.Knows calls) (key : String) :
    m.getOutput key = (outputSettings calls).reverse.lookup key := by
  rw [Mocks.getOutput, h.outputs, Table.get?_ofList]

/-- A command goes to the handler that the calls give it. -/
theorem handlerFor? (h : m.Knows calls) (command : String) :
    m.handlerFor? command = handlerAfter? calls command := by
  rw [Mocks.handlerFor?, h.handlers, handlerAfter?, Table.find?_entries_ofList]

/-- It goes to none exactly if no registered pattern occurs in it. -/
theorem handlerAfter?_eq_none_iff (h : m.Knows calls) (command : String) :
    handlerAfter? calls command = none ↔
      ∀ pattern ∈ m.patterns, ¬pattern.toList <:+: command.toList := by
  rw [← h.handlerFor?, Mocks.handlerFor?, Option.map_eq_none_iff, List.find?_eq_none]
  simp only [Mocks.patterns, Table.keys, List.forall_mem_map, String.holds_iff]

/-- Dispatching a command runs that handler and nothing else. -/
theorem dispatch_eq (h : m.Knows calls) (places : Nat) (command : String) :
    dispatch (places + 2) command m =
      match handlerAfter? calls command with
      | some handler => handler.run (dispatch places) m
      | none => (.error (.unmatched command), m) := by
  rw [dispatch, h.handlerFor?]
  cases handlerAfter? calls command with
  | none => rfl
  | some handler => rfl

end Mocks.Knows

end Calls

/-! ## Moments -/

/-- A moment of a session: the calls made so far, the mocks, the places left for nested calls, the
program that is running, and the callers that wait for a reply, the last one first. -/
structure Moment where
  calls : List MockCall
  mocks : Mocks
  places : Nat
  running : Handler
  waiting : List (Reply → Handler)

namespace Moment

/-- The start of a session on new mocks. -/
def start (places : Nat) (client : Handler) : Moment := ⟨[], {}, places, client, []⟩

/-- The moment after one more call, question or reply. A session that is over stays as it is. -/
def next : Moment → Moment
  | ⟨calls, m, places, .finish reply, []⟩ => ⟨calls, m, places, .finish reply, []⟩
  | ⟨calls, m, places, .finish reply, caller :: waiting⟩ =>
    ⟨calls, m, places + 2, caller reply, waiting⟩
  | ⟨calls, m, places, .note text next, waiting⟩ => ⟨calls, m.note text, places, next, waiting⟩
  | ⟨calls, m, places, .recall next, waiting⟩ => ⟨calls, m, places, next m.notes, waiting⟩
  | ⟨calls, m, places, .setOutput key value next, waiting⟩ =>
    ⟨calls ++ [.setOutput key value], m.setOutput key value, places, next, waiting⟩
  | ⟨calls, m, places, .getOutput key next, waiting⟩ =>
    ⟨calls, m, places, next (m.getOutput key), waiting⟩
  | ⟨calls, m, places, .listOutputs next, waiting⟩ => ⟨calls, m, places, next m.outputs, waiting⟩
  | ⟨calls, m, places, .listPatterns next, waiting⟩ => ⟨calls, m, places, next m.patterns, waiting⟩
  | ⟨calls, m, places, .register pattern handler next, waiting⟩ =>
    ⟨calls ++ [.register pattern handler], m.register pattern handler, places, next, waiting⟩
  | ⟨calls, m, places, .reset next, waiting⟩ => ⟨calls ++ [.reset], m.reset, places, next, waiting⟩
  | ⟨calls, m, 0, .execute command next, waiting⟩ =>
    ⟨calls ++ [.execute command], m, 0, next (.error (.tooDeep false)), waiting⟩
  | ⟨calls, m, 1, .execute command next, waiting⟩ =>
    ⟨calls ++ [.execute command], m, 1, next (.error (.tooDeep true)), waiting⟩
  | ⟨calls, m, places + 2, .execute command next, waiting⟩ =>
    match m.handlerFor? command with
    | none =>
      ⟨calls ++ [.execute command], m, places + 2, next (.error (.unmatched command)), waiting⟩
    | some handler => ⟨calls ++ [.execute command], m, places, handler, next :: waiting⟩

/-- Whether a session comes from one moment to another. -/
def Reaches (s t : Moment) : Prop := ∃ n, next^[n] s = t

theorem Reaches.refl (s : Moment) : Reaches s s := ⟨0, rfl⟩

theorem Reaches.head {s t u : Moment} (step : s.next = t) (h : Reaches t u) : Reaches s u := by
  obtain ⟨n, rfl⟩ := h
  exact ⟨n + 1, by rw [Function.iterate_succ_apply, step]⟩

theorem Reaches.trans {s t u : Moment} (h : Reaches s t) (g : Reaches t u) : Reaches s u := by
  obtain ⟨n, rfl⟩ := h
  obtain ⟨k, rfl⟩ := g
  exact ⟨k + n, Function.iterate_add_apply _ k n s⟩

/-! ## Running a program -/

section Run

variable {places : Nat}

/-- If commands are answered as they are dispatched, a program comes to the end that running it
has, with the same callers waiting. -/
theorem reaches_run_of
    (answered : ∀ command next calls m waiting, ∃ calls',
      Reaches ⟨calls, m, places, .execute command next, waiting⟩
        ⟨calls', (dispatch places command m).2, places, next (dispatch places command m).1, waiting⟩)
    (program : Handler) (calls : List MockCall) (m : Mocks) (waiting : List (Reply → Handler)) :
    ∃ calls', Reaches ⟨calls, m, places, program, waiting⟩
      ⟨calls', (program.run (dispatch places) m).2, places,
        .finish (program.run (dispatch places) m).1, waiting⟩ := by
  -- each constructor is one step of the session, but a command takes as long as its handler
  induction program generalizing calls m with
  | finish reply => exact ⟨calls, .refl _⟩
  | note text next ih =>
      obtain ⟨calls', h⟩ := ih calls (m.note text)
      exact ⟨calls', Reaches.head rfl h⟩
  | «recall» next ih =>
      obtain ⟨calls', h⟩ := ih m.notes calls m
      exact ⟨calls', Reaches.head rfl h⟩
  | setOutput key value next ih =>
      obtain ⟨calls', h⟩ := ih (calls ++ [.setOutput key value]) (m.setOutput key value)
      exact ⟨calls', Reaches.head rfl h⟩
  | getOutput key next ih =>
      obtain ⟨calls', h⟩ := ih (m.getOutput key) calls m
      exact ⟨calls', Reaches.head rfl h⟩
  | listOutputs next ih =>
      obtain ⟨calls', h⟩ := ih m.outputs calls m
      exact ⟨calls', Reaches.head rfl h⟩
  | listPatterns next ih =>
      obtain ⟨calls', h⟩ := ih m.patterns calls m
      exact ⟨calls', Reaches.head rfl h⟩
  | register pattern handler next _ ih =>
      obtain ⟨calls', h⟩ := ih (calls ++ [.register pattern handler]) (m.register pattern handler)
      exact ⟨calls', Reaches.head rfl h⟩
  | execute command next ih =>
      obtain ⟨calls₁, first⟩ := answered command next calls m waiting
      obtain ⟨calls', rest⟩ := ih (dispatch places command m).1 calls₁ (dispatch places command m).2
      exact ⟨calls', first.trans rest⟩
  | reset next ih =>
      obtain ⟨calls', h⟩ := ih (calls ++ [.reset]) m.reset
      exact ⟨calls', Reaches.head rfl h⟩

/-- A command is answered as it is dispatched, with the places that are left. -/
theorem reaches_dispatch (places : Nat) (command : String) (next : Reply → Handler)
    (calls : List MockCall) (m : Mocks) (waiting : List (Reply → Handler)) :
    ∃ calls', Reaches ⟨calls, m, places, .execute command next, waiting⟩
      ⟨calls', (dispatch places command m).2, places, next (dispatch places command m).1,
        waiting⟩ := by
  -- a handler runs with two places less, and programs of any size with that many are covered
  induction places using Nat.twoStepInduction generalizing command next calls m waiting with
  | zero => exact ⟨_, Reaches.head rfl (.refl _)⟩
  | one => exact ⟨_, Reaches.head rfl (.refl _)⟩
  | more places ih _ =>
      rw [dispatch]
      cases found : m.handlerFor? command with
      | none =>
          have step : Moment.next ⟨calls, m, places + 2, .execute command next, waiting⟩ =
              ⟨calls ++ [.execute command], m, places + 2, next (.error (.unmatched command)),
                waiting⟩ := by
            simp only [Moment.next, found]
          exact ⟨_, Reaches.head step (.refl _)⟩
      | some handler =>
          -- the handler runs with the caller waiting, and its reply takes the caller back
          obtain ⟨calls', run⟩ :=
            reaches_run_of ih handler (calls ++ [.execute command]) m (next :: waiting)
          have step : Moment.next ⟨calls, m, places + 2, .execute command next, waiting⟩ =
              ⟨calls ++ [.execute command], m, places, handler, next :: waiting⟩ := by
            simp only [Moment.next, found]
          exact ⟨calls', (Reaches.head step run).trans (Reaches.head rfl (.refl _))⟩

/-- A program comes to the end that running it has. -/
theorem reaches_run (places : Nat) (program : Handler) (calls : List MockCall) (m : Mocks)
    (waiting : List (Reply → Handler)) :
    ∃ calls', Reaches ⟨calls, m, places, program, waiting⟩
      ⟨calls', (program.run (dispatch places) m).2, places,
        .finish (program.run (dispatch places) m).1, waiting⟩ :=
  reaches_run_of (reaches_dispatch places) program calls m waiting

end Run

/-! ## What every step keeps -/

/-- Whether the mocks know what was called, and every waiting caller has taken two places. -/
structure Recorded (places : Nat) (s : Moment) : Prop where
  knows : s.mocks.Knows s.calls
  places_left : s.places + 2 * s.waiting.length = places

theorem recorded_start (places : Nat) (client : Handler) : Recorded places (start places client) :=
  ⟨⟨rfl, rfl⟩, rfl⟩

theorem Recorded.next {places : Nat} {s : Moment} (h : Recorded places s) :
    Recorded places s.next := by
  obtain ⟨calls, m, left, running, waiting⟩ := s
  obtain ⟨knows, places_left⟩ := h
  cases running with
  | finish reply =>
      cases waiting with
      | nil => exact ⟨knows, places_left⟩
      | cons caller waiting =>
          -- the reply gives back what its caller had taken
          refine ⟨knows, ?_⟩
          simp only [Moment.next, List.length_cons] at places_left ⊢
          omega
  | note text next => exact ⟨⟨knows.handlers, knows.outputs⟩, places_left⟩
  | «recall» next => exact ⟨knows, places_left⟩
  | setOutput key value next => exact ⟨knows.setOutput key value, places_left⟩
  | getOutput key next => exact ⟨knows, places_left⟩
  | listOutputs next => exact ⟨knows, places_left⟩
  | listPatterns next => exact ⟨knows, places_left⟩
  | register pattern handler next => exact ⟨knows.register pattern handler, places_left⟩
  | reset next => exact ⟨.reset m calls, places_left⟩
  | execute command next =>
      have knows' := knows.execute command
      match left with
      | 0 => exact ⟨knows', places_left⟩
      | 1 => exact ⟨knows', places_left⟩
      | left + 2 =>
          cases found : m.handlerFor? command with
          | none =>
              simp only [Moment.next, found]
              exact ⟨knows', places_left⟩
          | some handler =>
              -- nothing is known of the handler, and nothing need be: it runs step by step
              simp only [Moment.next, found]
              refine ⟨knows', ?_⟩
              simp only [List.length_cons] at places_left ⊢
              omega

/-- So they do at every moment of a session. -/
theorem recorded_iterate (places : Nat) (client : Handler) (n : Nat) :
    Recorded places (next^[n] (start places client)) := by
  induction n with
  | zero => exact recorded_start places client
  | succ n ih =>
      rw [Function.iterate_succ_apply']
      exact ih.next

end Moment

/-- **Mocks know and do what was called.** Whatever a client calls, and whatever the handlers call
while they run, at every moment of the session: the patterns are those registered since the last
reset, in order of first registration; the outputs are those set since then, in order of first
setting and each with the value set last; and the only thing that executing a command does is to
run one handler, that which was registered last for the first registered pattern in the command.
If no registered pattern occurs in it, the command is unmatched and nothing changes.

The moments are those of running the client: the session comes to the end that `Handler.run` has,
and a command that is executed at a moment, by the client or by a handler, gives its caller the
reply, and leaves the mocks, that dispatching it gives. Each caller that waits has taken two of the
places, so a command finds too few of them only if half as many callers wait, as a handler comes to
that executes itself for ever. -/
theorem session_history (places : Nat) (client : Handler) :
    (∃ n, let last := Moment.next^[n] (.start places client)
      last.running = .finish (client.run (dispatch places) {}).1 ∧ last.waiting = [] ∧
        last.mocks = (client.run (dispatch places) {}).2) ∧
    ∀ n, let s := Moment.next^[n] (.start places client)
      s.mocks.patterns = ((registrations s.calls).map (·.1)).eraseDups ∧
      s.mocks.outputs.keys = ((outputSettings s.calls).map (·.1)).eraseDups ∧
      (∀ key, s.mocks.getOutput key = (outputSettings s.calls).reverse.lookup key) ∧
      (∀ command left, dispatch (left + 2) command s.mocks =
        match handlerAfter? s.calls command with
        | some handler => handler.run (dispatch left) s.mocks
        | none => (.error (.unmatched command), s.mocks)) ∧
      (∀ command, handlerAfter? s.calls command = none ↔
        ∀ pattern ∈ s.mocks.patterns, ¬pattern.toList <:+: command.toList) ∧
      s.places + 2 * s.waiting.length = places ∧
      ∀ command next, s.running = .execute command next →
        ∃ k, let answered := Moment.next^[k] s
          answered.running = next (dispatch s.places command s.mocks).1 ∧
            answered.mocks = (dispatch s.places command s.mocks).2 ∧
            answered.waiting = s.waiting := by
  constructor
  · obtain ⟨calls, n, reached⟩ := Moment.reaches_run places client [] {} []
    refine ⟨n, ?_⟩
    rw [Moment.start, reached]
    exact ⟨rfl, rfl, rfl⟩
  · intro n s
    have recorded : s.Recorded places := Moment.recorded_iterate places client n
    have knows := recorded.knows
    refine ⟨knows.patterns, knows.outputKeys, knows.getOutput,
      fun command left => knows.dispatch_eq left command, knows.handlerAfter?_eq_none_iff,
      recorded.places_left, ?_⟩
    intro command next executes
    -- the calls after the reply are whatever was called meanwhile
    obtain ⟨calls', k, reached⟩ :=
      Moment.reaches_dispatch s.places command next s.calls s.mocks s.waiting
    refine ⟨k, ?_⟩
    have hs : s = ⟨s.calls, s.mocks, s.places, .execute command next, s.waiting⟩ := by
      rw [← executes]
    rw [hs, reached]
    exact ⟨rfl, rfl, rfl⟩

/-- A handler that resets the mocks in which it was found and executes what it registers then. -/
def relay : Handler :=
  .reset <| .register "late" (.finish (.ok (.bool true))) <| .execute "too late" .finish

example :
    let client : Handler := .register "now" relay <| .setOutput "a" "1" <| .execute "now" .finish
    let left := (client.run (dispatch allPlaces) {}).2
    left.patterns = ["late"] ∧ left.getOutput "a" = none := by decide +kernel

end ActionRehearsal
