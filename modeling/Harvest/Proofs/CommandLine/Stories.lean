import Harvest.CommandLine.Run
import Harvest.Proofs.Http.Credential
import Harvest.Proofs.Http.Fault
import Harvest.Proofs.Run.Stories

/-!
Stories from the command line to the requests. Without a login the arguments drop the wish for
stories or are refused, so that a batch downloads the stories of accounts behind a login only, and
no request without a session asks for them.
-/

namespace Harvest

open Http (Access Method Request Settings accessOf exchanges mem_requestsOf overHttp requestsOf)
open Program (Path path_bind_iff path_perform_iff path_play path_pure_iff staged_of_path)
open Url (namedPage)

/-! ## Pages of stories -/

/-- The page with the stories of an account, by the segment of its name. -/
def storiesPage (segment : String) : List String := ["profiles", segment, "stories"]

/-- The pages with the stories of everyone and of an account. -/
def IsOfStories (page : List String) : Prop :=
  page = ["stories"] ∨ ∃ segment, page = storiesPage segment

theorem IsOfStories.isPrivate {page : List String} (ofStories : IsOfStories page) :
    IsPrivate page := by
  rcases ofStories with rfl | ⟨segment, rfl⟩
  · exact .inr (.inr (.inl rfl))
  · exact .inr (.inr (.inr ⟨segment, rfl⟩))

theorem namedPage_eq_storiesPage {folder name segment : String} {page : Option String}
    (same : namedPage folder name page = storiesPage segment) :
    page = some "stories" ∧ segment = Percent.segment name := by
  unfold namedPage storiesPage at same
  split at same
  · simp at same
  · split at same
    · simp at same
    · cases page with
      | none => simp at same
      | some behind =>
          obtain ⟨-, rest⟩ := List.cons.inj same
          obtain ⟨rfl, behindSame⟩ := List.cons.inj rest
          exact ⟨congrArg some (List.cons.inj behindSame).1, rfl⟩

namespace ServiceCall

variable {call : ServiceCall} {method : Method} {page : List String}

/-- Only the download of an account that wants its stories asks for their page. -/
theorem Asks.of_storiesPage {segment : String} (asked : call.Asks method page)
    (same : page = storiesPage segment) :
    ∃ retriever account filters options,
      call = .retrieve retriever (.profile account filters options) ∧ options.stories = true ∧
      segment = Percent.segment account := by
  have apart {folder name behind : String} (other : behind ≠ "stories") :
      namedPage folder name (some behind) ≠ storiesPage segment := fun equal =>
    other (Option.some.inj (namedPage_eq_storiesPage equal).1)
  cases asked with
  | login | whoami => simp [storiesPage] at same
  | @retrieve retriever retrieval _ _ asked =>
      cases asked with
      | profileStories account filters wanted loggedIn =>
          exact ⟨retriever, account, filters, _, rfl, wanted, (namedPage_eq_storiesPage same).2⟩
      | followees account => exact absurd same (apart (by decide))
      | hashtag tag filter options => exact absurd same (apart (by decide))
      | profilePosts account filters wanted => exact absurd same (apart (by decide))
      | profile account filters options =>
          exact absurd (namedPage_eq_storiesPage same).1 (by simp)
      | _ => simp [storiesPage] at same

/-- Without a session nothing asks for stories. -/
theorem Asks.not_isOfStories (asked : call.Asks method page) (anonymous : call.session = none) :
    ¬IsOfStories page := by
  intro ofStories
  cases method with
  | get => exact asked.not_isPrivate anonymous ofStories.isPrivate
  | post =>
      cases asked with
      | login username password => simp [IsOfStories, storiesPage] at ofStories
      | retrieve asked =>
          obtain ⟨kind, -, rfl⟩ := asked.download
          simp [IsOfStories, storiesPage] at ofStories

end ServiceCall

/-! ## Stages of the work -/

section Stages

variable {settings : Settings} {stage : Stage retrievalService exchanges}

/-- A request of a stage is sent for the call that is carried out in it. -/
theorem sends_of_carried (carried : stage.Carried (Http.carryOut settings)) {request : Request}
    (inside : request ∈ requestsOf stage.course) :
    ∃ call page, stage.event.deed = .call call ∧ call.Asks request.method page ∧
      (accessOf settings call).Sends request.method page request := by
  cases carried with
  | @call call answer course path =>
      obtain ⟨_, happened⟩ := mem_requestsOf.1 inside
      obtain ⟨method, page, asked, sends⟩ := (Http.only_carryOut settings call).path path _ happened
      obtain rfl := sends.method_eq
      exact ⟨call, page, rfl, asked, sends⟩
  | _ => exact absurd inside List.not_mem_nil

/-- A download of an account that is refused is one without a credential. -/
theorem anonymous_of_refusal {retriever : Retriever} {account : String} {filters : Filter.Filters}
    {options : ProfileOptions} {answer : Except RetrieveError Tally}
    (carried : stage.Carried (Http.carryOut settings))
    (downloads : stage.event =
      ⟨.call (.retrieve retriever (.profile account filters options)), answer⟩)
    {what : String} (refused : answer = .error (.refusal what)) :
    options.stories = true ∧ retriever.credential = none := by
  obtain ⟨event, course⟩ := stage
  obtain rfl : event = _ := downloads
  cases carried with
  | call path =>
      have faults := (Http.Access.always_carryOut ⟨settings, retriever.credential⟩
        (.profile account filters options)).path path
      obtain ⟨anonymous, _, needed⟩ := (faults _ refused).of_refusal
      cases needed with
      | profile _ _ wanted => exact ⟨wanted, anonymous⟩

end Stages

/-! ## From the command line -/

namespace Arguments

variable {arguments : Arguments} {stories : Bool}

/-- A wish for stories comes with a login. -/
theorem login_of_wantsStories (wants : arguments.wantsStories = .ok true) :
    arguments.login ≠ none := by
  intro anonymous
  simp only [wantsStories, anonymous, Option.isNone_none, if_true] at wants
  split at wants <;> cases wants

/-- Without a login stories alone are refused, or the password is. -/
theorem refused_of_storiesOnly (alone : arguments.storiesOnly = true)
    (anonymous : arguments.login = none) :
    arguments.wantsStories =
      .error (.invalidArguments "--login=USERNAME required to download stories.") := by
  simp [wantsStories, alone, anonymous]

/-- A batch does not want stories without a login. -/
theorem guarded_of_wantsStories (wants : arguments.wantsStories = .ok stories)
    (anonymous : (arguments.batchConfig stories).login = none) :
    (arguments.batchConfig stories).options.profile.stories = false := by
  cases stories with
  | false => rfl
  | true => exact absurd anonymous (login_of_wantsStories wants)

end Arguments

/-- A fault of the arguments is printed as it is. -/
theorem FatalError.printed_invalidArguments (reason : String) :
    (FatalError.invalidArguments reason).printed = reason := rfl

namespace CommandLine

variable {environment : Environment} {prompts : Nat} {arguments : Arguments}

/-- What logging in may use. -/
def loginMeans (environment : Environment) (prompts : Nat) (arguments : Arguments) : LoginMeans :=
  ⟨environment, if arguments.isQuiet then none else some prompts⟩

/-- How a command line is carried out: a fault of its options ends it before anything happens, and
otherwise there are warnings and the stages of a batch. -/
inductive Course (environment : Environment) (prompts : Nat) (arguments : Arguments) :
    Journal exchanges → List (Stage retrievalService exchanges) → Prop where
  | unstarted {warnings : Journal exchanges}
      (warned : ∀ event ∈ warnings, ∃ level message, event.deed = .log level message) :
      Course environment prompts arguments warnings []
  | batch {warnings : Journal exchanges} {stages : List (Stage retrievalService exchanges)}
      {stories : Bool} {result : Except FatalError Report}
      (warned : ∀ event ∈ warnings, ∃ level message, event.deed = .log level message)
      (wants : arguments.wantsStories = .ok stories)
      (path : ((arguments.batchConfig stories).run
        (loginMeans environment prompts arguments)).Path (stages.map Stage.event) result)
      (carried : ∀ stage ∈ stages, stage.Carried (Http.carryOut arguments.httpSettings)) :
      Course environment prompts arguments (warnings ++ stages.flatMap Stage.course) stages

theorem path_warning {warning : Option String} {events : Journal exchanges}
    (path : (warning.forM Program.warn : Http.Web Unit).Path events ()) :
    ∀ event ∈ events, ∃ level message, event.deed = .log level message := by
  cases warning with
  | none =>
      obtain ⟨rfl, -⟩ := path_pure_iff.1 path
      exact fun _ => List.not_mem_nil.elim
  | some message =>
      rw [path_perform_iff.1 path]
      exact List.forall_mem_singleton.2 ⟨.warn, message, rfl⟩

theorem course_of_path {events : Journal exchanges} {ending : Ending}
    (path : (runArguments environment prompts arguments).Path events ending) :
    ∃ stages, Course environment prompts arguments events stages := by
  have nothing : Course environment prompts arguments [] [] :=
    .unstarted fun _ => List.not_mem_nil.elim
  unfold runArguments at path
  split at path
  · obtain ⟨rfl, -⟩ := path_pure_iff.1 path
    exact ⟨[], nothing⟩
  · obtain ⟨rfl, -⟩ := path_pure_iff.1 path
    exact ⟨[], nothing⟩
  · next stories checked wants =>
      obtain ⟨warnings, later, _, rfl, warned, path⟩ := path_bind_iff.1 path
      dsimp only at path
      split at path
      · obtain ⟨working, rest, result, rfl, worked, path⟩ := path_bind_iff.1 path
        obtain ⟨stages, followed, rfl, carried⟩ := staged_of_path worked
        have ended : rest = [] := by
          cases result <;> exact (path_pure_iff.1 path).1
        rw [ended, List.append_nil]
        exact ⟨stages, .batch (path_warning warned) wants followed carried⟩
      · obtain ⟨rfl, -⟩ := path_pure_iff.1 path
        rw [List.append_nil]
        exact ⟨[], .unstarted (path_warning warned)⟩

/-- How the stages of a batch ask for the stories of accounts. Whether stories are wanted makes no
difference to the login of the batch, so that of the batch with stories stands for both. -/
structure AsksForStories (arguments : Arguments) (means : LoginMeans)
    (stages : List (Stage retrievalService exchanges)) : Prop where
  /-- Downloads with stories have the credential of the login, and come after it. -/
  behind_login : ∀ stage ∈ stages, ∀ retriever account options,
    stage.event.deed.Downloads retriever account options → options.stories = true →
    (arguments.batchConfig true).BehindLogin means (stages.map Stage.event) stage.event retriever
  /-- No download of an account is refused for want of a login. -/
  never_refused : ∀ stage ∈ stages, ∀ retriever account filters options answer,
    stage.event = ⟨.call (.retrieve retriever (.profile account filters options)), answer⟩ →
    ∀ what, answer ≠ .error (.refusal what)
  /-- The page with the stories of an account is requested by its download with stories only. -/
  page_asked : ∀ stage ∈ stages, ∀ request ∈ requestsOf stage.course, ∀ segment,
    arguments.httpSettings.endpoint.Leads (storiesPage segment) request.url →
    ∃ retriever account options, stage.event.deed.Downloads retriever account options ∧
      options.stories = true ∧ segment = Percent.segment account
  /-- From the anonymous download of an account on its stories are not requested. -/
  settled : ∀ before stage after, stages = before ++ stage :: after → ∀ account options,
    stage.event.deed.Downloads Retriever.anonymousCopy account options →
    options.stories = false ∧ ∀ later ∈ stage :: after, ∀ request ∈ requestsOf later.course,
      ¬arguments.httpSettings.endpoint.Leads (storiesPage (Percent.segment account)) request.url
  /-- Without a session no stories are requested at all. -/
  secluded : ∀ stage ∈ stages, ∀ request ∈ requestsOf stage.course, request.session = none →
    ∀ page, IsOfStories page → ¬arguments.httpSettings.endpoint.Leads page request.url

section Batch

variable {means : LoginMeans} {stories : Bool} {result : Except FatalError Report}
  {stages : List (Stage retrievalService exchanges)}
  (wants : arguments.wantsStories = .ok stories)
  (path : ((arguments.batchConfig stories).run means).Path (stages.map Stage.event) result)
  (carried : ∀ stage ∈ stages, stage.Carried (Http.carryOut arguments.httpSettings))

section Downloads

include wants path

theorem behindLogin_of_wantsStories {stage : Stage retrievalService exchanges}
    (inside : stage ∈ stages) {retriever : Retriever} {account : String} {options : ProfileOptions}
    (downloads : stage.event.deed.Downloads retriever account options)
    (wanted : options.stories = true) :
    (arguments.batchConfig true).BehindLogin means (stages.map Stage.event) stage.event retriever :=
  BatchConfig.behindLogin_of_downloads path (Arguments.guarded_of_wantsStories wants)
    (List.mem_map_of_mem inside) downloads wanted

/-- The anonymous download of an account leaves the stories out. -/
theorem no_stories_of_anonymous {stage : Stage retrievalService exchanges}
    (inside : stage ∈ stages) {account : String} {options : ProfileOptions}
    (downloads : stage.event.deed.Downloads Retriever.anonymousCopy account options) :
    options.stories = false := by
  refine Bool.eq_false_iff.2 fun wanted => ?_
  obtain ⟨credential, _, _, -, -, -, same⟩ :=
    behindLogin_of_wantsStories wants path inside downloads wanted
  cases same

end Downloads

include carried

theorem downloads_of_storiesPage {stage : Stage retrievalService exchanges}
    (inside : stage ∈ stages) {request : Request} (sent : request ∈ requestsOf stage.course)
    {segment : String}
    (leads : arguments.httpSettings.endpoint.Leads (storiesPage segment) request.url) :
    ∃ retriever account options, stage.event.deed.Downloads retriever account options ∧
      options.stories = true ∧ segment = Percent.segment account := by
  obtain ⟨call, page, made, asked, sends⟩ := sends_of_carried (carried stage inside) sent
  obtain ⟨retriever, account, filters, options, rfl, wanted, same⟩ :=
    asked.of_storiesPage (sends.leads.unique leads)
  exact ⟨retriever, account, options, ⟨filters, made⟩, wanted, same⟩

include wants path

theorem settled_of_anonymous {before after : List (Stage retrievalService exchanges)}
    {stage : Stage retrievalService exchanges} (split : stages = before ++ stage :: after)
    {account : String} {options : ProfileOptions}
    (downloads : stage.event.deed.Downloads Retriever.anonymousCopy account options) :
    ∀ later ∈ stage :: after, ∀ request ∈ requestsOf later.course,
      ¬arguments.httpSettings.endpoint.Leads (storiesPage (Percent.segment account))
        request.url := by
  intro later follows request sent leads
  have inside : later ∈ stages := by
    rw [split]
    exact List.mem_append_right before follows
  obtain ⟨retriever, other, wanted, again, stories, same⟩ :=
    downloads_of_storiesPage carried inside sent leads
  obtain rfl := Percent.segment_injective same
  rcases List.mem_cons.1 follows with rfl | after
  · -- The anonymous download itself does not want them.
    obtain ⟨filters, made⟩ := downloads
    obtain ⟨_, repeated⟩ := again
    cases made.symm.trans repeated
    have dropped := no_stories_of_anonymous wants path inside ⟨filters, made⟩
    exact absurd (stories.symm.trans dropped) (by decide)
  · have settled := BatchConfig.settled_of_path path
    rw [split, List.map_append, List.map_cons, List.pairwise_append, List.pairwise_cons] at settled
    exact settled.2.1.1 later.event (List.mem_map_of_mem after) _ _ downloads _ _ again

theorem asksForStories_of_batch : AsksForStories arguments means stages where
  behind_login stage inside _ _ _ := behindLogin_of_wantsStories wants path inside
  never_refused stage inside retriever account filters options answer made what refused := by
    obtain ⟨wanted, anonymous⟩ := anonymous_of_refusal (carried stage inside) made refused
    obtain ⟨credential, _, _, -, -, -, rfl⟩ :=
      behindLogin_of_wantsStories wants path inside ⟨filters, by rw [made]⟩ wanted
    cases anonymous
  page_asked stage inside _ sent _ := downloads_of_storiesPage carried inside sent
  settled before stage after split account options downloads := by
    have inside : stage ∈ stages := by simp [split]
    exact ⟨no_stories_of_anonymous wants path inside downloads,
      settled_of_anonymous wants path carried split downloads⟩
  secluded stage inside request sent anonymous page ofStories leads := by
    obtain ⟨call, other, -, asked, sends⟩ := sends_of_carried (carried stage inside) sent
    obtain rfl := sends.leads.unique leads
    exact asked.not_isOfStories (sends.session_eq.symm.trans anonymous) ofStories

end Batch

/-- No request means no request for stories. -/
theorem asksForStories_of_course {events : Journal exchanges}
    {stages : List (Stage retrievalService exchanges)}
    (carries : Course environment prompts arguments events stages) :
    AsksForStories arguments (loginMeans environment prompts arguments) stages := by
  cases carries with
  | unstarted _ =>
      have nothing {p : Stage retrievalService exchanges → Prop} : ∀ stage ∈ [], p stage :=
        fun _ => List.not_mem_nil.elim
      refine ⟨nothing, nothing, nothing, fun before stage after split => ?_, nothing⟩
      simp at split
  | batch _ wants path carried => exact asksForStories_of_batch wants path carried

theorem runArguments_of_storiesOnly (alone : arguments.storiesOnly = true)
    (anonymous : arguments.login = none) :
    runArguments environment prompts arguments =
      pure (.error (if arguments.password.isSome then "--password requires --login=USERNAME."
        else "--login=USERNAME required to download stories.")) := by
  have wants := Arguments.refused_of_storiesOnly alone anonymous
  unfold runArguments Arguments.checkPassword
  cases given : arguments.password with
  | none => simp [anonymous, wants, FatalError.printed_invalidArguments]
  | some password => simp [anonymous, wants, FatalError.printed_invalidArguments]

/-- Stories of accounts are asked for behind a login. Whatever the arguments, the files, the user
and the service, downloads with stories carry the credential of the requested login and are not
refused for want of one, and after the anonymous download of an account its stories are not
requested. With a wish for stories alone and no login the program ends before it does anything. -/
theorem stories_are_asked_behind_login (environment : Environment) (prompts : Nat)
    (arguments : Arguments) (world : World exchanges) :
    let course := (runArguments environment prompts arguments).play world []
    (∃ stages, Course environment prompts arguments course.2 stages ∧
      AsksForStories arguments (loginMeans environment prompts arguments) stages) ∧
    (arguments.storiesOnly = true → arguments.login = none →
      course = (.error (if arguments.password.isSome then "--password requires --login=USERNAME."
        else "--login=USERNAME required to download stories."), [])) := by
  dsimp only
  constructor
  · obtain ⟨stages, carries⟩ := course_of_path
      (path_play world (runArguments environment prompts arguments) [])
    exact ⟨stages, carries, asksForStories_of_course carries⟩
  · intro alone anonymous
    rw [runArguments_of_storiesOnly alone anonymous]
    rfl

end CommandLine

end Harvest
