import Harvest.Proofs.Program
import Harvest.Retrieval.Service

/-!
Journals. A run of a program is told by its acts with their answers. A path is one way through a
program, and a world picks a path: it answers each act in view of everything that happened before.
Acts on the retrieval service have kinds, by which their events are told apart.
-/

namespace Harvest

/-- An act and its answer. -/
structure Event (service : Interface) where
  deed : Act service
  answer : deed.Answer

/-- What happened, the latest event last. -/
abbrev Journal (service : Interface) := List (Event service)

/-- What answers acts. An answer may depend on everything that happened before. -/
abbrev World (service : Interface) :=
  Journal service → (deed : Act service) → deed.Answer

variable {service : Interface} {α β : Type}

/-- An act after some events, as a world answers it. -/
def World.event (world : World service) (past : Journal service) (deed : Act service) :
    Event service :=
  ⟨deed, world past deed⟩

open Classical in
/-- A world that goes along with some events, and answers like another one otherwise. -/
noncomputable def World.along (events : Journal service) (otherwise : World service) :
    World service := fun past deed =>
  if told : ∃ answer, events[past.length]? = some ⟨deed, answer⟩ then told.choose
  else otherwise past deed

theorem World.along_eq {events before after : Journal service} {otherwise : World service}
    {deed : Act service} {answer : deed.Answer}
    (split : events = before ++ ⟨deed, answer⟩ :: after) :
    World.along events otherwise before deed = answer := by
  have here : events[before.length]? = some ⟨deed, answer⟩ := by simp [split]
  have told : ∃ answer, events[before.length]? = some ⟨deed, answer⟩ := ⟨answer, here⟩
  have same := Option.some.inj (here.symm.trans told.choose_spec)
  rw [along, dif_pos told]
  exact (eq_of_heq (Event.mk.inj same).2).symm

namespace Program

/-- One way through a program: its events, and its result. -/
inductive Path : Program service α → Journal service → α → Prop where
  | done (result : α) : Path (.done result) [] result
  | act {deed : Act service} {next : deed.Answer → Program service α} (answer : deed.Answer)
      {events : Journal service} {result : α} (rest : Path (next answer) events result) :
      Path (.act deed next) (⟨deed, answer⟩ :: events) result

/-- What a program comes to in a world after some events, and the events that it adds. -/
def play (world : World service) : Program service α → Journal service → α × Journal service
  | .done result, _ => (result, [])
  | .act deed next, past =>
    let rest := (next (world past deed)).play world (past ++ [world.event past deed])
    (rest.1, world.event past deed :: rest.2)

/-- Every act on every path is one of those allowed. -/
inductive Only (allowed : Act service → Prop) : Program service α → Prop where
  | done (result : α) : Only allowed (.done result)
  | act {deed : Act service} {next : deed.Answer → Program service α} (fine : allowed deed)
      (rest : ∀ answer, Only allowed (next answer)) : Only allowed (.act deed next)

variable {world : World service} {allowed : Act service → Prop}

theorem path_pure_iff {value result : α} {events : Journal service} :
    (pure value : Program service α).Path events result ↔ events = [] ∧ result = value := by
  constructor
  · intro path
    cases path
    exact ⟨rfl, rfl⟩
  · rintro ⟨rfl, rfl⟩
    exact .done _

/-- A program that only fails does not succeed. -/
theorem not_path_error {ε : Type} {fault : ε} {result : α} {events : Journal service} :
    ¬(pure (.error fault) : Program service (Except ε α)).Path events (.ok result) := by
  intro path
  obtain ⟨-, impossible⟩ := path_pure_iff.1 path
  contradiction

theorem path_perform_iff {deed : Act service} {events : Journal service} {result : deed.Answer} :
    (perform deed).Path events result ↔ events = [⟨deed, result⟩] := by
  constructor
  · intro path
    cases path with
    | act answer rest =>
        cases rest
        rfl
  · rintro rfl
    exact .act result (.done result)

/-- A path through two programs is a path through the first one and then one through the second. -/
theorem path_bind_iff {first : Program service α} {second : α → Program service β}
    {events : Journal service} {result : β} :
    (first >>= second).Path events result ↔
      ∃ before after middle, events = before ++ after ∧ first.Path before middle ∧
        (second middle).Path after result := by
  constructor
  · intro path
    induction first generalizing events with
    | done middle => exact ⟨[], events, middle, rfl, .done middle, path⟩
    | act deed next ih =>
        cases path with
        | act answer rest =>
            obtain ⟨before, after, middle, rfl, start, following⟩ := ih answer rest
            exact ⟨_, after, middle, rfl, .act answer start, following⟩
  · rintro ⟨before, after, middle, rfl, start, following⟩
    induction start with
    | done _ => exact following
    | act answer _ ih => exact .act answer (ih following)

/-- A world picks a path. -/
theorem path_play (world : World service) (program : Program service α) (past : Journal service) :
    program.Path (program.play world past).2 (program.play world past).1 := by
  induction program generalizing past with
  | done result => exact .done result
  | act deed next ih => exact .act _ (ih _ _)

/-- What holds of every result holds at the end of every path. -/
theorem Always.path {holds : α → Prop} {program : Program service α}
    (always : program.Always holds) {events : Journal service} {result : α}
    (path : program.Path events result) : holds result := by
  induction path with
  | done _ => exact always
  | @act deed _ answer _ _ _ ih => exact ih (always answer (by cases deed <;> trivial))

@[simp] theorem play_pure (result : α) (past : Journal service) :
    (pure result : Program service α).play world past = (result, []) := rfl

theorem play_act (deed : Act service) (next : deed.Answer → Program service α)
    (past : Journal service) :
    (act deed next).play world past =
      (((next (world past deed)).play world (past ++ [world.event past deed])).1,
        world.event past deed ::
          ((next (world past deed)).play world (past ++ [world.event past deed])).2) := rfl

/-- The second program goes on where the first one ends. -/
theorem play_bind (first : Program service α) (second : α → Program service β)
    (past : Journal service) :
    (first >>= second).play world past =
      (((second (first.play world past).1).play world (past ++ (first.play world past).2)).1,
        (first.play world past).2 ++
          ((second (first.play world past).1).play world (past ++ (first.play world past).2)).2) := by
  induction first generalizing past with
  | done result =>
      have start : (done result : Program service α).play world past = (result, []) := rfl
      rw [start, List.append_nil]
      rfl
  | act deed next ih =>
      have same : act deed next >>= second = act deed fun answer => next answer >>= second := rfl
      rw [same, play_act, play_act, ih]
      simp only [List.append_assoc, List.cons_append, List.nil_append]

/-- Every event of a program is answered in view of those before it. -/
theorem answered_of_play {program : Program service α} {past before after : Journal service}
    {deed : Act service} {answer : deed.Answer}
    (played : (program.play world past).2 = before ++ ⟨deed, answer⟩ :: after) :
    answer = world (past ++ before) deed := by
  induction program generalizing past before with
  | done result =>
      have empty : before ++ ⟨deed, answer⟩ :: after = [] := played.symm
      simp at empty
  | act first next ih =>
      rw [play_act] at played
      cases before with
      | nil =>
          obtain ⟨here, -⟩ := List.cons.inj played
          cases here
          rw [List.append_nil]
      | cons event before =>
          obtain ⟨rfl, later⟩ := List.cons.inj played
          rw [ih _ later, List.append_assoc]
          rfl

/-- A path whose answers are those of a world is the one that it picks. -/
theorem play_of_path {program : Program service α} {events past : Journal service} {result : α}
    (path : program.Path events result)
    (answered : ∀ before deed answer after, events = before ++ ⟨deed, answer⟩ :: after →
      answer = world (past ++ before) deed) :
    program.play world past = (result, events) := by
  induction path generalizing past with
  | done result => rfl
  | @act deed next answer rest result following ih =>
      obtain rfl : answer = world past deed := by simpa using answered [] deed answer rest rfl
      have later : (next (world past deed)).play world (past ++ [world.event past deed]) =
          (result, rest) := by
        apply ih
        rintro before other answer after rfl
        rw [answered (world.event past deed :: before) other answer after rfl, List.append_assoc]
        rfl
      rw [play_act, later]
      rfl

/-- A world that goes along with a path picks it. -/
theorem play_along {program : Program service α} {events past rest : Journal service} {result : α}
    (otherwise : World service) (path : program.Path rest result) (split : events = past ++ rest) :
    program.play (World.along events otherwise) past = (result, rest) := by
  refine play_of_path path ?_
  rintro before deed answer after rfl
  exact (World.along_eq (by rw [split, List.append_assoc])).symm

theorem only_pure (result : α) : (pure result : Program service α).Only allowed := .done result

theorem Only.bind {first : Program service α} {second : α → Program service β}
    (start : first.Only allowed) (following : ∀ result, (second result).Only allowed) :
    (first >>= second).Only allowed := by
  induction start with
  | done result => exact following result
  | act fine _ ih => exact .act fine ih

theorem Only.forM {γ : Type} {body : γ → Program service Unit}
    (each : ∀ element, (body element).Only allowed) (elements : List γ) :
    (elements.forM body).Only allowed := by
  induction elements with
  | nil => exact .done ()
  | cons first rest ih => exact (each first).bind fun _ => ih

theorem Only.imp {wider : Act service → Prop} {program : Program service α}
    (only : program.Only allowed) (widen : ∀ deed, allowed deed → wider deed) :
    program.Only wider := by
  induction only with
  | done result => exact .done result
  | act fine _ ih => exact .act (widen _ fine) ih

/-- The events of a path are allowed acts. -/
theorem Only.path {program : Program service α} (only : program.Only allowed)
    {events : Journal service} {result : α} (path : program.Path events result) :
    ∀ event ∈ events, allowed event.deed := by
  induction path with
  | done _ => exact nofun
  | act answer _ ih =>
      cases only with
      | act fine rest =>
          intro event inside
          rcases List.mem_cons.1 inside with rfl | later
          · exact fine
          · exact ih (rest answer) event later

/-- The events of a program in a world are allowed acts. -/
theorem Only.play {program : Program service α} (only : program.Only allowed)
    (past : Journal service) : ∀ event ∈ (program.play world past).2, allowed event.deed :=
  only.path (path_play world program past)

end Program

/-- The account or the hashtag that a retrieval names. -/
def Retrieval.name? : Retrieval → Option String
  | .followees account | .profile account _ _ => some account
  | .posts (.hashtag tag) _ _ => some tag
  | _ => none

/-- The kinds of acts. -/
inductive ActKind where
  | login
  | validation
  | opening
  | copying
  | retrieval
  | poll
  | probe
  | reading
  | writing
  | question
  | message
  deriving DecidableEq

/-- The kind of an act. -/
def Act.kind : Act retrievalService → ActKind
  | .call (.login _ _) => .login
  | .call (.whoami _) => .validation
  | .call (.openRetriever _) => .opening
  | .call (.copyAnonymously _) => .copying
  | .call (.retrieve _ _) => .retrieval
  | .pollInterrupt => .poll
  | .probeFile _ => .probe
  | .readText _ => .reading
  | .writePrivate _ _ => .writing
  | .askPassword _ => .question
  | .log _ _ => .message

/-- The kinds of calls of the service. -/
def ActKind.calls : List ActKind := [.login, .validation, .opening, .copying, .retrieval]

/-- The events of some kinds, in order. -/
def eventsOf (kinds : List ActKind) (events : Journal retrievalService) :
    Journal retrievalService :=
  events.filter fun event => event.deed.kind ∈ kinds

section EventsOf

variable {kinds : List ActKind}

@[simp] theorem eventsOf_nil : eventsOf kinds [] = [] := rfl

@[simp] theorem eventsOf_append (first second : Journal retrievalService) :
    eventsOf kinds (first ++ second) = eventsOf kinds first ++ eventsOf kinds second :=
  List.filter_append first second

theorem eventsOf_cons (event : Event retrievalService) (events : Journal retrievalService) :
    eventsOf kinds (event :: events) =
      if event.deed.kind ∈ kinds then event :: eventsOf kinds events
      else eventsOf kinds events := by
  simp [eventsOf, List.filter_cons]

theorem eventsOf_eq_nil {events : Journal retrievalService}
    (apart : ∀ event ∈ events, event.deed.kind ∉ kinds) : eventsOf kinds events = [] := by
  simpa [eventsOf] using apart

end EventsOf

namespace Program

/-- Every act of a program is of one of some kinds. -/
abbrev Within (kinds : List ActKind) (program : Work α) : Prop :=
  program.Only fun deed => deed.kind ∈ kinds

section Within

variable {kinds : List ActKind}

theorem within_perform {deed : Act retrievalService} (kind : ActKind) (same : deed.kind = kind)
    (fine : kind ∈ kinds) : (perform deed).Within kinds :=
  .act (same ▸ fine) .done

theorem within_inform (fine : .message ∈ kinds) (message : String) :
    (inform message : Work Unit).Within kinds :=
  .act fine .done

theorem within_warn (fine : .message ∈ kinds) (message : String) :
    (warn message : Work Unit).Within kinds :=
  .act fine .done

/-- A program that keeps to other kinds leaves no event of some kinds. -/
theorem Within.eventsOf_play {others : List ActKind} {program : Work α}
    (within : program.Within kinds) (apart : ∀ kind ∈ kinds, kind ∉ others)
    (world : World retrievalService) (past : Journal retrievalService) :
    eventsOf others (program.play world past).2 = [] :=
  eventsOf_eq_nil fun event inside => apart _ (Only.play within past event inside)

end Within

end Program

/-- A world where nothing is new: every file holds the same or is missing, every credential belongs
to the same account or to nobody, every login is answered with the same credential, and the user
neither interrupts nor enters anything. -/
def World.steady (found : Except ReadFault String) (owner : Option String) (issued : String) :
    World retrievalService := fun _ deed =>
  match deed with
  | .call (.login _ _) => .ok issued
  | .call (.whoami _) => .ok owner
  | .call (.openRetriever _) | .call (.copyAnonymously _) => ()
  | .call (.retrieve _ (.followees _)) => .ok []
  | .call (.retrieve _ (.savePost _ _)) | .call (.retrieve _ (.saveStoryItem _ _)) => .ok false
  | .call (.retrieve _ (.posts _ _ _)) | .call (.retrieve _ (.stories _ _))
  | .call (.retrieve _ (.profile _ _ _)) => .ok Tally.zero
  | .pollInterrupt | .probeFile _ => false
  | .readText _ => found
  | .writePrivate _ _ => .ok ()
  | .askPassword _ => none
  | .log _ _ => ()

end Harvest
