import ActionRehearsal.Definition.Library
import ActionRehearsal.Proofs.Schema.Check
import ActionRehearsal.Proofs.Table
import ActionRehearsal.Proofs.Text.Lines
import Mathlib.Data.Finset.Card

/-!
# What a library answers

`Library.after` makes calls on a new library one after the other, each in surroundings of its own,
since files may change between any two of them, and writes down what every request was answered.
`Library.Remembers` links the library to these events: what it holds are the definitions that were
given since it was last cleared, by the first answer for each place, and a serial number that was
given is not given again to something else. Every call keeps it.

The main statement, `library_answers`, is what any further request is answered, by the events alone.
-/

set_option autoImplicit false

namespace ActionRehearsal

open ActionRehearsal.Files

/-! ## Calls and events -/

/-- The path of the default document of a kind. -/
def Settings.pathOf (settings : Settings) : DefinitionKind → String
  | .action => settings.actionPath
  | .workflow => settings.workflowPath

/-- The strict reading of a text as a definition of a kind. -/
def Definition.ofText [Platform] (source : Option String) (text : String) :
    DefinitionKind → Except ReadFault Definition
  | .action => (Action.ofText source true text).map .action
  | .workflow => (Workflow.ofText source true text).map .workflow

/-- A request for a definition of a kind, with the surroundings and the settings at that time. -/
structure LibraryRequest where
  kind : DefinitionKind
  world : Surroundings
  settings : Settings := {}
  path : Option String := none

/-- Where the path of a request leads. -/
def LibraryRequest.locate (request : LibraryRequest) (root : Option String) :
    Except PathFault Place :=
  request.world.locate root request.path (request.settings.pathOf request.kind)

/-- A call on a library. -/
inductive LibraryCall where
  | request (request : LibraryRequest)
  | clear

/-- What a request is answered, for a definition of either kind. -/
abbrev LibraryAnswer : Type := Except LibraryFault (Numbered Definition)

/-- What a call did: a request was answered, or all definitions were let go. -/
inductive LibraryEvent where
  | answered (request : LibraryRequest) (answer : LibraryAnswer)
  | cleared

namespace LibraryEvent

/-- Whether all definitions were let go. -/
def isCleared : LibraryEvent → Bool
  | .cleared => true
  | .answered _ _ => false

/-- The definition that was given, with the text of the place that it was asked for. -/
def given? (root : Option String) : LibraryEvent → Option (String × Numbered Definition)
  | .answered request (.ok found) =>
    (request.locate root).toOption.map fun place => (place.text, found)
  | _ => none

end LibraryEvent

/-- The definitions given since all were let go, in order. -/
def givenSinceClear (root : Option String) (events : List LibraryEvent) :
    List (String × Numbered Definition) :=
  (events.rtakeWhile fun event => !event.isCleared).filterMap (LibraryEvent.given? root)

namespace Library

/-- An answer of a request of one kind as an answer of either kind. -/
def wrapped {α : Type} (wrap : α → Definition) (request : Request α) : LibraryAnswer × Library :=
  (request.1.map fun found => ⟨found.serial, wrap found.content⟩, request.2)

/-- The answer to a request, with the library after it. -/
def ask [Platform] (lib : Library) (request : LibraryRequest) : LibraryAnswer × Library :=
  match request.kind with
  | .action => wrapped .action (lib.action request.world request.settings request.path)
  | .workflow => wrapped .workflow (lib.workflow request.world request.settings request.path)

/-- What a call does, with the library after it. -/
def call [Platform] (lib : Library) : LibraryCall → LibraryEvent × Library
  | .request request => (.answered request (lib.ask request).1, (lib.ask request).2)
  | .clear => (.cleared, lib.clear)

/-- What calls did on a new library, with the library after them. -/
def after [Platform] (root : Option String) (calls : List LibraryCall) : List LibraryEvent × Library :=
  calls.foldl (fun s call => (s.1 ++ [(s.2.call call).1], (s.2.call call).2)) ([], .empty root)

/-! ## One request -/

/-- The definition of a kind in the file at a place. -/
def definitionAt [Platform] (files : FileSystem) (kind : DefinitionKind) (place : Place) :
    Except LibraryFault Definition :=
  match files.textAt place with
  | .ok text => (Definition.ofText (some place.text) text kind).mapError .read
  | .error fault => .error (.ofText place fault)

/-- What a request is answered at a place, by what the library holds there. -/
def answerAt [Platform] (lib : Library) (files : FileSystem) (kind : DefinitionKind) (place : Place) :
    LibraryAnswer × Library :=
  match lib.held.get? place.text with
  | some held =>
    if held.content.kind = kind then (.ok held, lib)
    else (.error (.read (.refused ⟨.otherKind held.content.kind kind, some place.text⟩)), lib)
  | none => match definitionAt files kind place with
    | .ok definition => (.ok ⟨lib.nextSerial, definition⟩, lib.hold place.text definition)
    | .error fault => (.error fault, lib)

/-- Whether a reader recognises exactly the definitions of its kind and reads them strictly. -/
structure Reader.Faithful [Platform] {α : Type} (reader : Reader α) : Prop where
  unwrap : ∀ definition, (reader.unwrap? definition).map reader.wrap =
    if definition.kind = reader.kind then some definition else none
  ofText : ∀ source text,
    (reader.ofText source text).map reader.wrap = Definition.ofText source text reader.kind

theorem actions_faithful [Platform] : actions.Faithful := by
  refine ⟨fun definition => ?_, fun source text => rfl⟩
  cases definition with
  | action a => rfl
  | workflow w => rfl

theorem workflows_faithful [Platform] : workflows.Faithful := by
  refine ⟨fun definition => ?_, fun source text => rfl⟩
  cases definition with
  | action a => rfl
  | workflow w => rfl

theorem wrapped_requestAt [Platform] {α : Type} {reader : Reader α} (faithful : reader.Faithful)
    (lib : Library) (files : FileSystem) (place : Place) :
    wrapped reader.wrap (lib.requestAt files reader place) =
      lib.answerAt files reader.kind place := by
  rw [requestAt, answerAt]
  cases lib.held.get? place.text with
  | some held =>
      -- what is held may be of either kind, and the reader recognises those of its own
      have recognised := faithful.unwrap held.content
      by_cases same : held.content.kind = reader.kind
      · rw [if_pos same, Option.map_eq_some_iff] at recognised
        obtain ⟨content, unwrapped, rewrapped⟩ := recognised
        simp only [unwrapped, if_pos same, wrapped, Except.map, rewrapped]
      · rw [if_neg same, Option.map_eq_none_iff] at recognised
        simp only [recognised, if_neg same, wrapped, Except.map]
  | none =>
      simp only [readAt, definitionAt]
      cases files.textAt place with
      | error e => rfl
      | ok text =>
          simp only [← faithful.ofText]
          cases reader.ofText (some place.text) text with
          | ok content => rfl
          | error fault => rfl

/-- A request is answered at the place that its path leads to. -/
theorem ask_eq [Platform] (lib : Library) (request : LibraryRequest) :
    lib.ask request =
      match request.locate lib.root with
      | .ok place => lib.answerAt request.world.files request.kind place
      | .error fault => (.error (.path fault), lib) := by
  obtain ⟨kind, world, settings, path⟩ := request
  cases kind with
  | action =>
      simp only [ask, action, Library.request, LibraryRequest.locate, Settings.pathOf]
      cases world.locate lib.root path settings.actionPath with
      | ok place => exact wrapped_requestAt actions_faithful lib world.files place
      | error fault => rfl
  | workflow =>
      simp only [ask, workflow, Library.request, LibraryRequest.locate, Settings.pathOf]
      cases world.locate lib.root path settings.workflowPath with
      | ok place => exact wrapped_requestAt workflows_faithful lib world.files place
      | error fault => rfl

/-- What may become of a request: it fails, it gets what is held, or it gets what is read now, which
is held from then on. -/
inductive Asked (lib : Library) (request : LibraryRequest) : LibraryAnswer → Library → Prop where
  | failed (fault : LibraryFault) : Asked lib request (.error fault) lib
  | held {place : Place} {found : Numbered Definition} (located : request.locate lib.root = .ok place)
      (here : lib.held.get? place.text = some found) : Asked lib request (.ok found) lib
  | read {place : Place} (definition : Definition) (located : request.locate lib.root = .ok place)
      (absent : lib.held.get? place.text = none) :
      Asked lib request (.ok ⟨lib.nextSerial, definition⟩) (lib.hold place.text definition)

/-- A request that fails changes nothing. -/
theorem Asked.eq_of_error {lib lib' : Library} {request : LibraryRequest} {fault : LibraryFault}
    (h : Asked lib request (.error fault) lib') : lib' = lib := by
  cases h with
  | failed => rfl

theorem asked [Platform] (lib : Library) (request : LibraryRequest) :
    Asked lib request (lib.ask request).1 (lib.ask request).2 := by
  rw [ask_eq]
  cases located : request.locate lib.root with
  | error fault => exact .failed _
  | ok place =>
      simp only [answerAt]
      cases here : lib.held.get? place.text with
      | some found =>
          by_cases same : found.content.kind = request.kind
          · simp only [same, if_true]
            exact .held located here
          · simp only [same, if_false]
            exact .failed _
      | none =>
          cases definitionAt request.world.files request.kind place with
          | ok definition => exact .read definition located here
          | error fault => exact .failed _

/-! ## What every call keeps -/

/-- Whether a library remembers what it gave: it holds the first definition given for each place
since it was last cleared, and no serial number that was given is still to come. -/
structure Remembers (root : Option String) (events : List LibraryEvent) (lib : Library) : Prop where
  root_eq : lib.root = root
  held : ∀ key, lib.held.get? key = (givenSinceClear root events).lookup key
  serials : ∀ request found, .answered request (.ok found) ∈ events → found.serial < lib.nextSerial

variable {root : Option String} {events : List LibraryEvent} {lib : Library}

theorem givenSinceClear_append_answered (request : LibraryRequest) (answer : LibraryAnswer) :
    givenSinceClear root (events ++ [.answered request answer]) =
      givenSinceClear root events ++
        (LibraryEvent.given? root (.answered request answer)).toList :=
  List.filterMap_rtakeWhile_concat rfl _ _

theorem remembers_empty (root : Option String) : Remembers root [] (.empty root) :=
  ⟨rfl, fun _ => rfl, fun _ _ mem => absurd mem List.not_mem_nil⟩

theorem Remembers.clear (h : Remembers root events lib) :
    Remembers root (events ++ [.cleared]) lib.clear := by
  refine ⟨h.root_eq, fun key => ?_, fun request found mem => ?_⟩
  · rw [givenSinceClear, List.rtakeWhile_concat_neg _ _ _ (by simp [LibraryEvent.isCleared])]
    rfl
  · rcases List.mem_append.1 mem with before | last
    · exact h.serials request found before
    · cases List.mem_singleton.1 last

/-- A definition that is held was given. -/
theorem Remembers.serial_lt (h : Remembers root events lib) {key : String}
    {found : Numbered Definition} (here : lib.held.get? key = some found) :
    found.serial < lib.nextSerial := by
  -- the pair that is looked up comes from an answer since the last clearing
  rw [h.held, List.lookup_eq_some_iff] at here
  obtain ⟨before, rest, split, -⟩ := here
  have given : (key, found) ∈ givenSinceClear root events := by
    rw [split]
    exact List.mem_append_right _ List.mem_cons_self
  obtain ⟨event, mem, hevent⟩ := List.mem_filterMap.1 given
  have mem' : event ∈ events := (List.rtakeWhile_suffix _ _).mem mem
  cases event with
  | cleared => cases hevent
  | answered request answer =>
      cases answer with
      | error fault => cases hevent
      | ok found' =>
          obtain ⟨place, -, e⟩ := Option.map_eq_some_iff.1 hevent
          cases e
          exact h.serials request found mem'

theorem Remembers.ask [Platform] (h : Remembers root events lib) (request : LibraryRequest) :
    Remembers root (events ++ [.answered request (lib.ask request).1]) (lib.ask request).2 := by
  -- from here on only what may become of the request counts, not how it is answered
  have taken := asked lib request
  generalize (lib.ask request).1 = answer at taken ⊢
  generalize (lib.ask request).2 = lib' at taken ⊢
  cases taken with
  | failed fault =>
      refine ⟨h.root_eq, fun key => ?_, fun request' found mem => ?_⟩
      · rw [givenSinceClear_append_answered, h.held]
        simp [LibraryEvent.given?]
      · rcases List.mem_append.1 mem with before | last
        · exact h.serials request' found before
        · cases List.mem_singleton.1 last
  | @held place found located here =>
      rw [h.root_eq] at located
      refine ⟨h.root_eq, fun key => ?_, fun request' found' mem => ?_⟩
      · rw [givenSinceClear_append_answered, List.lookup_append, h.held]
        simp only [LibraryEvent.given?, located, Except.toOption, Option.map_some,
          Option.toList_some, List.lookup_cons, List.lookup_nil]
        -- another answer for a place does not count beside the first
        by_cases same : key = place.text
        · subst same
          rw [← h.held, here]
          rfl
        · rw [beq_false_of_ne same, Option.or_none]
      · rcases List.mem_append.1 mem with before | last
        · exact h.serials request' found' before
        · cases List.mem_singleton.1 last
          exact h.serial_lt here
  | @read place definition located absent =>
      rw [h.root_eq] at located
      refine ⟨h.root_eq, fun key => ?_, fun request' found' mem => ?_⟩
      · rw [givenSinceClear_append_answered, List.lookup_append]
        simp only [LibraryEvent.given?, located, Except.toOption, Option.map_some,
          Option.toList_some, List.lookup_cons, List.lookup_nil, Library.hold]
        -- the first answer for a place is the one that is looked up
        by_cases same : key = place.text
        · subst same
          rw [Table.get?_set_self, ← h.held, absent, beq_self_eq_true]
          rfl
        · rw [Table.get?_set_of_ne _ same, h.held, beq_false_of_ne same, Option.or_none]
      · rcases List.mem_append.1 mem with before | last
        · exact (h.serials request' found' before).trans (Nat.lt_succ_self _)
        · cases List.mem_singleton.1 last
          exact Nat.lt_succ_self _

/-- So a library remembers what it gave after any calls. -/
theorem remembers_after [Platform] (root : Option String) (calls : List LibraryCall) :
    Remembers root (after root calls).1 (after root calls).2 := by
  induction calls using List.reverseRecOn with
  | nil => exact remembers_empty root
  | append_singleton calls call ih =>
      simp only [after, List.foldl_append, List.foldl_cons, List.foldl_nil]
      cases call with
      | request request => exact ih.ask request
      | clear => exact ih.clear

/-- What is held are the places for which a definition was given. -/
theorem Remembers.size_eq (h : Remembers root events lib) :
    lib.size = ((givenSinceClear root events).map (·.1)).toFinset.card := by
  -- no key is held twice, so it is enough that the same places occur on both sides
  have same : lib.held.keys.toFinset = ((givenSinceClear root events).map (·.1)).toFinset := by
    ext key
    rw [List.mem_toFinset, List.mem_toFinset, ← not_iff_not, ← Table.get?_eq_none_iff, h.held]
    exact Entries.lookup_eq_none_iff_not_mem
  have distinct : lib.held.keys.Nodup := lib.held.distinct
  rw [← same, List.toFinset_card_of_nodup distinct, Library.size, Table.size, Table.keys,
    List.length_map]

section Answers

variable {request : LibraryRequest} {place : Place}

/-- For a place for which a definition was given, the first one is the answer, if it is of the
right kind. -/
theorem Remembers.ask_of_given [Platform] (h : Remembers root events lib)
    (located : request.locate root = .ok place) {first : Numbered Definition}
    (given : (givenSinceClear root events).lookup place.text = some first) :
    lib.ask request =
      (if first.content.kind = request.kind then .ok first
        else .error (.read (.refused
          ⟨.otherKind first.content.kind request.kind, some place.text⟩)), lib) := by
  rw [← h.held] at given
  rw [ask_eq, h.root_eq, located]
  simp only [answerAt, given]
  split
  · rfl
  · rfl

/-- For any other place the answer is what the file there holds. -/
theorem Remembers.ask_of_not_given [Platform] (h : Remembers root events lib)
    (located : request.locate root = .ok place)
    (absent : (givenSinceClear root events).lookup place.text = none) :
    lib.ask request =
      match definitionAt request.world.files request.kind place with
      | .ok definition => (.ok ⟨lib.nextSerial, definition⟩, lib.hold place.text definition)
      | .error fault => (.error fault, lib) := by
  rw [← h.held] at absent
  rw [ask_eq, h.root_eq, located]
  simp only [answerAt, absent]

end Answers

end Library

/-- **A library answers by its history.** After any calls on a new library, in surroundings that
may change from call to call: its size is the number of places for which a request succeeded since
it was last cleared, and a further request that fails changes nothing. If the path leads to a place
for which a definition was given since then, that very one is the answer, with its serial number,
if it is of the kind that was asked for, and else the request is refused, whatever the files hold.
For any other place it depends on what is found there at that moment. A file of characters is read
strictly, with the place as its source, and a definition that is read gets a serial number that none
had before. The request is refused if nothing is found, or a folder, something that cannot be read or
other bytes. But if looking at the place fails, the request fails as the system does. -/
theorem library_answers [Platform] (root : Option String) (calls : List LibraryCall) :
    let events := (Library.after root calls).1
    let lib := (Library.after root calls).2
    lib.size = ((givenSinceClear root events).map (·.1)).toFinset.card ∧
    ∀ request : LibraryRequest,
      let answer := (lib.ask request).1
      let lib' := (lib.ask request).2
      (∀ fault, answer = .error fault → lib' = lib) ∧
      (∀ fault, request.locate root = .error fault → answer = .error (.path fault)) ∧
      ∀ place, request.locate root = .ok place →
        let refused := fun cause : ConfigCause =>
          answer = .error (.read (.refused ⟨cause, some place.text⟩))
        (∀ first, (givenSinceClear root events).lookup place.text = some first →
          lib' = lib ∧
          (first.content.kind = request.kind → answer = .ok first) ∧
          (first.content.kind ≠ request.kind →
            refused (.otherKind first.content.kind request.kind))) ∧
        ((givenSinceClear root events).lookup place.text = none →
          match request.world.files.find place with
          | .nothing => refused .fileNotFound
          | .folder => refused (.unreadable (.system .isFolder place.text))
          | .unreadable fault => refused (.unreadable (.system fault place.text))
          | .hidden fault => answer = .error (.hidden fault place)
          | .file bytes => match Text.decodeUtf8 bytes with
            | .error fault => refused (.unreadable (.notUtf8 fault))
            | .ok written =>
              let text := String.ofList (Text.unifyNewlines written.toList)
              (∀ fault, Definition.ofText (some place.text) text request.kind = .error fault →
                answer = .error (.read fault)) ∧
              ∀ definition, Definition.ofText (some place.text) text request.kind = .ok definition →
                ∃ serial, answer = .ok ⟨serial, definition⟩ ∧
                  ∀ earlier found, .answered earlier (.ok found) ∈ events →
                    found.serial ≠ serial) := by
  intro events lib
  have remembers : Library.Remembers root events lib := Library.remembers_after root calls
  refine ⟨remembers.size_eq, fun request => ?_⟩
  intro answer lib'
  refine ⟨fun fault failed => ?_, fun fault lost => ?_, fun place located => ?_⟩
  · have taken : Library.Asked lib request answer lib' := Library.asked lib request
    rw [failed] at taken
    exact taken.eq_of_error
  · have asked := Library.ask_eq lib request
    rw [remembers.root_eq, lost] at asked
    exact congrArg Prod.fst asked
  · refine ⟨fun first given => ?_, fun absent => ?_⟩
    · have asked := remembers.ask_of_given located given
      refine ⟨congrArg Prod.snd asked, fun same => ?_, fun other => ?_⟩
      · rw [if_pos same] at asked
        exact congrArg Prod.fst asked
      · rw [if_neg other] at asked
        exact congrArg Prod.fst asked
    · have asked := remembers.ask_of_not_given located absent
      rw [Library.definitionAt, FileSystem.textAt] at asked
      -- what is found decides, and then the bytes of a file do
      cases found : request.world.files.find place with
      | nothing | folder | unreadable | hidden =>
          rw [found] at asked
          exact congrArg Prod.fst asked
      | file bytes =>
          cases decoded : Text.decodeUtf8 bytes with
          | error fault =>
              simp only [found, decoded] at asked ⊢
              exact congrArg Prod.fst asked
          | ok written =>
              simp only [found, decoded] at asked ⊢
              refine ⟨fun fault failed => ?_, fun definition read =>
                ⟨lib.nextSerial, ?_, fun earlier given mem => ?_⟩⟩
              · rw [failed] at asked
                exact congrArg Prod.fst asked
              · rw [read] at asked
                exact congrArg Prod.fst asked
              · exact Nat.ne_of_lt (remembers.serials earlier given mem)

/-- A working folder in which at most an action is found. -/
def shelf (text : Option String) : Surroundings where
  files.resolve names := .ok names
  files.find names := match names, text with
    | ["action.yml"], some text => .file (text.toList.map fun c => c.toNat.toUInt8)
    | _, _ => .nothing

/-- A request for the action in such a folder. -/
def fromShelf (text : Option String) : LibraryRequest := { kind := .action, world := shelf text }

/-- The text of a small action. -/
def shelved : String := "name: a\ndescription: b\nruns: {using: composite, steps: [{run: ls}]}"

theorem kind_of_ofText [Platform] {source : Option String} {text : String} {kind : DefinitionKind}
    {definition : Definition} (read : Definition.ofText source text kind = .ok definition) :
    definition.kind = kind := by
  cases kind with
  | action =>
      obtain ⟨a, -, rfl⟩ := Schema.Checked.map_eq_ok_iff.1 read
      rfl
  | workflow =>
      obtain ⟨w, -, rfl⟩ := Schema.Checked.map_eq_ok_iff.1 read
      rfl

/-- The action is read the first time, and once it is gone from the folder it is still given. -/
theorem library_answers_shelved :
    ∃ first : Numbered Definition,
      ((Library.after none []).2.ask (fromShelf (some shelved))).1 = .ok first ∧
      ((Library.after none [.request (fromShelf (some shelved))]).2.ask (fromShelf none)).1 =
        .ok first := by
  have written : Text.decodeUtf8 (shelved.toList.map fun c => c.toNat.toUInt8) = .ok shelved := by
    decide +kernel
  have unified : String.ofList (Text.unifyNewlines shelved.toList) = shelved := by decide +kernel
  have readable : (Definition.ofText (some "/action.yml") shelved .action).isOk = true := by
    decide +kernel
  obtain ⟨-, answers⟩ := library_answers none []
  obtain ⟨-, -, here⟩ := answers (fromShelf (some shelved))
  have reading := (here ["action.yml"] rfl).2 rfl
  simp only [fromShelf, shelf, written, unified] at reading
  cases read : Definition.ofText (some "/action.yml") shelved .action with
  | error fault =>
      rw [read] at readable
      cases readable
  | ok definition =>
      obtain ⟨serial, answer, -⟩ := reading.2 definition read
      have first : ((Library.after none []).2.ask (fromShelf (some shelved))).1 =
          .ok ⟨serial, definition⟩ := answer
      -- what the library was asked for and gave is all that has happened then
      have events : (Library.after none [.request (fromShelf (some shelved))]).1 =
          [.answered (fromShelf (some shelved)) (.ok ⟨serial, definition⟩)] := by
        rw [← first]
        rfl
      obtain ⟨-, later_answers⟩ := library_answers none [.request (fromShelf (some shelved))]
      obtain ⟨-, -, later⟩ := later_answers (fromShelf none)
      obtain ⟨-, again, -⟩ := (later ["action.yml"] rfl).1 ⟨serial, definition⟩ (by rw [events]; rfl)
      exact ⟨_, first, again (kind_of_ofText read)⟩

/-! ## A request that is not refused -/

/-- Without links, names lead down to themselves. -/
theorem FileTree.follow_of_no_links {t : FileTree}
    (no_links : ∀ place target, t.entry? place ≠ some (.link target)) (depth : Nat)
    (active : List Place) (place : Place) {names : List String} (down : ".." ∉ names) :
    t.follow false depth active place names = .reached (place ++ names) := by
  induction names generalizing place with
  | nil => rw [FileTree.follow, List.append_nil]
  | cons name rest ih =>
      have ne : name ≠ ".." := fun same => down (same ▸ List.mem_cons_self)
      have next := ih (place ++ [name]) fun mem => down (List.mem_cons_of_mem _ mem)
      rw [List.append_assoc, List.singleton_append] at next
      rw [FileTree.follow, if_neg ne]
      cases entry : t.entry? (place ++ [name]) with
      | none =>
          simp only [entry]
          exact (if_pos rfl).trans next
      | some found =>
          cases found with
          | link target => exact absurd entry (no_links _ _)
          | file | folder =>
              simp only [entry]
              exact (if_pos rfl).trans next

theorem FileTree.resolve_of_no_links {t : FileTree}
    (no_links : ∀ place target, t.entry? place ≠ some (.link target)) {names : List String}
    (plain : hasZeroCharacter names = false) (down : ".." ∉ names) :
    t.resolve names = .ok names := by
  simp only [FileTree.resolve, plain, FileTree.followFromTop,
    FileTree.follow_of_no_links no_links _ _ _ down]
  rfl

/-- A request for the action under a name in an empty folder. -/
def inEmptyFolder (name : String) : LibraryRequest :=
  { kind := .action, world := { files := FileTree.system {} }, path := some name }

/-- A name without slashes is the path of its text. -/
theorem Path.ofText_of_isName {name : String} (named : isName name = true)
    (plain : '/' ∉ name.toList) : Path.ofText name = ⟨false, [name]⟩ := by
  have start : (name.toList.head? == some '/') = false := by
    rw [beq_eq_false_iff_ne]
    exact fun slash => plain (List.mem_of_head? slash)
  have pieces : ((Text.splitAtEach '/' name.toList).map String.ofList).filter isName = [name] := by
    rw [Text.splitAtEach_of_not_mem plain, List.map_singleton, String.ofList_toList,
      List.filter_singleton, named, cond_true]
  rw [Path.ofText, start, pieces]

/-- Nor does it start at a home folder, unless it starts with a tilde. -/
theorem Path.withHome_of_no_tilde {homes : Table String Place} {name : String}
    (plain : '~' ∉ name.toList) : Path.withHome homes ⟨false, [name]⟩ = .ok ⟨false, [name]⟩ := by
  rw [Path.withHome]
  cases chars : name.toList with
  | nil => simp only [chars]
  | cons c rest =>
      have ne : c ≠ '~' := fun same => plain (chars ▸ same ▸ List.mem_cons_self)
      simp [chars, ne]

/-- In an empty folder a name leads to the place of that name. -/
theorem locate_inEmptyFolder {name : String} (named : isName name = true) (below : name ≠ "..")
    (plain : ∀ c ∈ ['/', '~', Char.ofNat 0], c ∉ name.toList) :
    (inEmptyFolder name).locate none = .ok [name] := by
  have path : Path.ofText name = ⟨false, [name]⟩ :=
    Path.ofText_of_isName named (plain '/' (by simp))
  have here : Path.withHome {} ⟨false, [name]⟩ = .ok ⟨false, [name]⟩ :=
    Path.withHome_of_no_tilde (plain '~' (by simp))
  have no_zero : hasZeroCharacter [name] = false := by
    have absent : Char.ofNat 0 ∉ name.toList := plain _ (by simp)
    simp [hasZeroCharacter, absent]
  have no_links (place : Place) (target : String) :
      FileTree.entry? {} place ≠ some (.link target) := by
    intro link
    rw [FileTree.entry?] at link
    split at link
    · cases link
    · cases link
  have names (default : String) :
      (inEmptyFolder name).world.namesFor none (some name) default = .ok [name] := by
    simp only [inEmptyFolder, Surroundings.namesFor, path, here]
    rfl
  have resolved : FileTree.resolve {} [name] = .ok [name] := by
    apply FileTree.resolve_of_no_links no_links no_zero
    intro up
    exact below (List.mem_singleton.1 up).symm
  rw [LibraryRequest.locate, Surroundings.locate, show (inEmptyFolder name).path = some name from rfl,
    names]
  exact resolved

/-- A name of one letter, repeated. -/
def repeated (n : Nat) : String := String.ofList (List.replicate n 'a')

theorem eq_of_mem_repeated {n : Nat} : ∀ c ∈ (repeated n).toList, c = 'a' := by
  intro c mem
  rw [repeated, String.toList_ofList] at mem
  exact List.eq_of_mem_replicate mem

/-- A name that is longer than any other. -/
def longName : String := repeated 300

/-- Even in an empty folder, looking for such a name fails. So a request that fails is not always
refused. -/
theorem longName_not_refused :
    ¬∀ (root : Option String) (calls : List LibraryCall) (request : LibraryRequest) (place : Place),
      request.locate root = .ok place →
      ∀ fault, ((Library.after root calls).2.ask request).1 = .error fault →
        ∃ cause, fault = .read cause := by
  intro claim
  have located : (inEmptyFolder longName).locate none = .ok [longName] := by
    refine locate_inEmptyFolder (by decide +kernel) (by decide +kernel) ?_
    intro c mark mem
    obtain rfl := eq_of_mem_repeated c mem
    revert mark
    decide
  have found : (inEmptyFolder longName).world.files.find [longName] = .hidden .nameTooLong := by
    decide +kernel
  have asked := (Library.remembers_empty none).ask_of_not_given located rfl
  simp only [Library.definitionAt, FileSystem.textAt, found] at asked
  obtain ⟨cause, read⟩ := claim none [] _ _ located _ (congrArg Prod.fst asked)
  cases read

end ActionRehearsal
