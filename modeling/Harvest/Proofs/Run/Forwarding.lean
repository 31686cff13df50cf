import Harvest.Proofs.Http.Forwarding
import Harvest.Proofs.Run.Course

/-!
What a run has the service save. Items come from the answers of the service and from files, and
those that the filters accept are posted as they are: nothing else is, and nothing is changed on
the way.
-/

namespace Harvest

open Harvest.Filter (Filters)
open Http (IsSavable SavesGiven TellsGiven exchanges overHttp)
open Program (Complies)

/-- A call on behalf of a run: a retrieval with its filters, or a retriever for one. -/
def ServiceCall.WorksWith (given : Descriptor → Prop) (filters : Filters) : ServiceCall → Prop
  | .retrieve _ retrieval => retrieval.WorksWith given filters
  | .openRetriever _ | .copyAnonymously _ => True
  | .login _ _ | .whoami _ => False

/-- As long as files hold given items only, the calls of some work save given items only. -/
abbrev Work.Forwards (given : Descriptor → Prop) (filters : Filters) {α : Type}
    (work : Work α) : Prop :=
  work.Complies (Act.Tells (fun _ _ => True) fun found => ∀ item, item.IsIn found → given item)
    (Act.Calls (ServiceCall.WorksWith given filters)) fun _ => True

namespace RunSettings

section Forwards

variable {settings : RunSettings} {given : Descriptor → Prop}

theorem allowsTargets_worksWith :
    settings.AllowsTargets (Act.Calls (ServiceCall.WorksWith given settings.filters)) where
  message _ _ := trivial
  probe _ := trivial
  posts _ := rfl
  stories := rfl
  followees _ := trivial

theorem allowsItems_worksWith :
    settings.AllowsItems given (Act.Calls (ServiceCall.WorksWith given settings.filters)) where
  read _ := trivial
  post post _ known accepted := ⟨known, post.subject, rfl, accepted⟩
  storyItem item _ known accepted := ⟨known, item.subject, rfl, accepted⟩

theorem allowsAccounts_worksWith :
    settings.AllowsAccounts (Act.Calls (ServiceCall.WorksWith given settings.filters)) where
  message _ _ := trivial
  poll := trivial
  profile _ := rfl
  copy _ := trivial
  again _ _ := rfl

/-- A run works with its own filters and saves given items only. -/
theorem forwards_run (targets : List String) :
    Work.Forwards given settings.filters (settings.run targets) :=
  complies_run allowsAccounts_worksWith
    (complies_handleTarget allowsTargets_worksWith allowsItems_worksWith fun _ _ told => told)
    targets

/-- A run over the web posts only items that are given and accepted. -/
theorem forwards_overHttp (service : Http.Settings) (settings : RunSettings)
    (targets : List String) :
    Http.Forwards given settings.filters (fun _ => True)
      (overHttp service (settings.run targets)) := by
  refine Complies.realize (fun call works => ?_) (forwards_run targets)
  cases call with
  | login username password => contradiction
  | whoami credential => contradiction
  | openRetriever credential => exact .done trivial
  | copyAnonymously retriever => exact .done trivial
  | retrieve retriever retrieval =>
      exact Http.forwards_carryOut ⟨service, retriever.credential⟩ works

end Forwards

end RunSettings

/-- An event that gives an item: the answer to what is read from the service, or the text of a
file. -/
inductive Event.Gives (item : Descriptor) : Event exchanges → Prop where
  | response {request : Http.Request} {response : Http.Response} (reads : request.method = .get)
      (gives : response.Gives item) : Gives item ⟨.call request, .ok response⟩
  | file {path : String} {found : Except ReadFault String} (isIn : item.IsIn found) :
      Gives item ⟨.readText path, found⟩

/-- Events tell what they give. -/
theorem Event.tells {events : Journal exchanges} {event : Event exchanges}
    (inside : event ∈ events) :
    Act.Tells (TellsGiven fun item => ∃ event ∈ events, event.Gives item)
      (fun found => ∀ item, item.IsIn found → ∃ event ∈ events, event.Gives item)
      event.deed event.answer := by
  obtain ⟨deed, answer⟩ := event
  cases deed with
  | call request =>
      rintro reads response rfl item gives
      exact ⟨_, inside, .response reads gives⟩
  | readText path => exact fun item isIn => ⟨_, inside, .file isIn⟩
  | _ => trivial

namespace RunSettings

/-- Items survive their saved form and go to the service as they are. What a node decodes to is read
back from its saved form. Whatever a run posts is the saved form of an item next to a target: without
the target it decodes to that item, which the filters accept and which has come, before it is posted,
in an answer of the service or in a file. -/
theorem items_are_forwarded_unchanged :
    (∀ (kind : ItemKind) (node : Json) (item : Descriptor),
      Descriptor.decode? kind.name node = some item → ∃ document,
        item.encode? = some document ∧ Descriptor.decode? kind.name document = some item) ∧
    ∀ (service : Http.Settings) (settings : RunSettings) (targets : List String)
      (world : World exchanges) (past before after : Journal exchanges) (request : Http.Request)
      (answer : Except String Http.Response),
      ((overHttp service (settings.run targets)).play world past).2 =
        before ++ ⟨.call request, answer⟩ :: after → request.method = .post →
      ∃ item target members,
        request.body = some (.object (("target", .text target) :: members)) ∧
        "target" ∉ members.map Prod.fst ∧ item.encode? = some (.object members) ∧
        Descriptor.decode? item.typeName (.object members) = some item ∧
        item.IsAccepted settings.filters ∧ ∃ event ∈ before, event.Gives item := by
  constructor
  · intro kind node item decoded
    obtain ⟨sameType, document, saved⟩ := Descriptor.typeName_of_decode? decoded
    exact ⟨document, saved, sameType ▸ Descriptor.decode?_of_encode? saved⟩
  · intro service settings targets world past before after request answer split posts
    have complies : Http.Forwards (fun item => ∃ event ∈ before, event.Gives item)
        settings.filters (fun _ => True) (overHttp service (settings.run targets)) :=
      forwards_overHttp service settings targets
    obtain ⟨item, ⟨target, members, saved, body⟩, told, accepted⟩ :=
      complies.allowed_of_path (Program.path_play world _ past) split
        (fun _ inside => Event.tells inside) posts
    exact ⟨item, target, members, body, Descriptor.target_notMem saved, saved,
      Descriptor.decode?_of_encode? saved, accepted, told⟩

/-- A service that answers reads with a document and calls everything that is posted new. -/
def serving (document : String) : World exchanges := fun _ deed =>
  match deed with
  | .call request =>
    .ok ⟨200, .text (if request.method = .get then document else "[true]")⟩
  | .pollInterrupt | .probeFile _ => false
  | .readText path => .error (.missing path)
  | .writePrivate _ _ => .ok ()
  | .askPassword _ => none
  | .log _ _ => ()

/-- A post from a leap second long ago is read back, and a post under a hashtag is forwarded. -/
theorem items_are_forwarded_unchanged_hashtag :
    (∃ item document, Descriptor.decode? ItemKind.post.name
        (.list [.text "P1", .int (-3), .text "alice", .null, .text "-12345-06-30T23:59:60.5"]) =
          some item ∧
      item.encode? = some document ∧
      Descriptor.decode? ItemKind.post.name document = some item) ∧
    let service := Http.Settings.usual Http.sampleEndpoint
    let settings : RunSettings := ⟨.ofCredential none, .none, ⟨.unlimited, .usual⟩⟩
    let world := serving "[[\"P1\", 7, \"alice\", 1, \"2021-07-04T08:00:00\"]]"
    let events := ((overHttp service (settings.run ["#sea"])).play world []).2
    ∃ before request answer after, events = before ++ ⟨.call request, answer⟩ :: after ∧
      request.method = .post ∧ ∃ item target members,
        request.body = some (.object (("target", .text target) :: members)) ∧
        "target" ∉ members.map Prod.fst ∧ item.encode? = some (.object members) ∧
        Descriptor.decode? item.typeName (.object members) = some item ∧
        item.IsAccepted settings.filters ∧ ∃ event ∈ before, event.Gives item := by
  constructor
  · have decodes : (Descriptor.decode? ItemKind.post.name
        (.list [.text "P1", .int (-3), .text "alice", .null,
          .text "-12345-06-30T23:59:60.5"])).isSome := by decide +kernel
    obtain ⟨item, decoded⟩ := Option.isSome_iff_exists.1 decodes
    obtain ⟨document, saved, back⟩ := items_are_forwarded_unchanged.1 .post _ item decoded
    exact ⟨item, document, decoded, saved, back⟩
  · intro service settings world events
    have methods : (Http.requestsOf events).map (·.method) = [.get, .post] := by decide +kernel
    have posted : Http.Method.post ∈ (Http.requestsOf events).map (·.method) := by simp [methods]
    obtain ⟨request, sent, posts⟩ := List.mem_map.1 posted
    obtain ⟨answer, happened⟩ := Http.mem_requestsOf.1 sent
    obtain ⟨before, after, split⟩ := List.append_of_mem happened
    exact ⟨before, request, answer, after, split, posts,
      items_are_forwarded_unchanged.2 service settings ["#sea"] world [] before after request answer
        split posts⟩

end RunSettings

end Harvest
