import Harvest.Http.Message
import Harvest.Proofs.Http.Success
import Harvest.Proofs.Url.Read

/-!
Where the names of accounts and hashtags lead. A name other than one or two dots stays in one
segment of its pages, so different names never share a page and no name leads to another one. Dots
are not escaped, and their pages are those of other names or of none.
-/

namespace Harvest

open Http (Access Method Request Settings exchanges mem_requestsOf requestTarget requestsOf)
open Url (namedPage namedPage_plain)

namespace Retrieval

/-- Where a retrieval looks for the name: in which folder, and for which page behind it. -/
def routes : Retrieval → List (String × Option String)
  | .followees _ => [("profiles", some "followees")]
  | .profile _ _ options =>
    ("profiles", none) :: (if options.posts then [("profiles", some "posts")] else []) ++
      (if options.stories then [("profiles", some "stories")] else [])
  | .posts (.hashtag _) _ _ => [("hashtags", some "posts")]
  | _ => []

/-- Routes are made of segments. -/
theorem whole_of_mem_routes {retrieval : Retrieval} {route : String × Option String}
    (inside : route ∈ retrieval.routes) :
    '/' ∉ route.1.toList ∧ ∀ page ∈ route.2, '/' ∉ page.toList := by
  have all : ∀ known ∈ [("profiles", some "followees"), ("profiles", none),
      ("profiles", some "posts"), ("profiles", some "stories"), ("hashtags", some "posts")],
      '/' ∉ known.1.toList ∧ ∀ page ∈ known.2, '/' ∉ page.toList := by decide
  apply all
  cases retrieval with
  | posts listing filter options => cases listing <;> simp_all [routes]
  | profile account filters options =>
      simp only [routes, List.cons_append, List.mem_cons, List.mem_append,
        List.mem_ite_nil_right] at inside
      simp only [List.mem_cons]
      rcases inside with rfl | ⟨-, rfl | none⟩ | ⟨-, rfl | none⟩
      · simp
      · simp
      · contradiction
      · simp
      · contradiction
  | _ => simp_all [routes]

/-- A retrieval reads the pages of the name that it has. -/
theorem asks_get_iff {retrieval : Retrieval} {name : String} {page : List String}
    (named : retrieval.name? = some name) :
    retrieval.Asks true .get page ↔
      ∃ route ∈ retrieval.routes, page = namedPage route.1 name route.2 := by
  constructor
  · intro asked
    cases asked with
    | followees account | hashtag tag | profile account =>
        obtain rfl := Option.some.inj named
        exact ⟨_, List.mem_cons_self, rfl⟩
    | profilePosts account filters wanted =>
        obtain rfl := Option.some.inj named
        exact ⟨("profiles", some "posts"), by simp [routes, wanted], rfl⟩
    | profileStories account filters wanted =>
        obtain rfl := Option.some.inj named
        exact ⟨("profiles", some "stories"), by simp [routes, wanted], rfl⟩
    | _ => contradiction
  · rintro ⟨route, inside, rfl⟩
    cases retrieval with
    | followees account =>
        obtain rfl := Option.some.inj named
        obtain rfl := List.mem_singleton.1 inside
        exact .followees account
    | posts listing filter options =>
        cases listing with
        | hashtag tag =>
            obtain rfl := Option.some.inj named
            obtain rfl := List.mem_singleton.1 inside
            exact .hashtag tag filter options
        | _ => contradiction
    | profile account filters options =>
        obtain rfl := Option.some.inj named
        simp only [routes, List.cons_append, List.mem_cons, List.mem_append, List.mem_ite_nil_right,
          List.not_mem_nil, or_false] at inside
        rcases inside with rfl | ⟨wanted, rfl⟩ | ⟨wanted, rfl⟩
        · exact .profile account filters options
        · exact .profilePosts account filters wanted
        · exact .profileStories account filters wanted rfl
    | _ => contradiction

/-- The page of a name on a route, with the name as one segment. -/
def pageOf (route : String × Option String) (name : String) : List String :=
  route.1 :: Percent.segment name :: route.2.toList

/-- Different names have different pages. -/
theorem pageOf_injective {route other : String × Option String} {name another : String}
    (same : pageOf route name = pageOf other another) : name = another := by
  obtain ⟨-, behind⟩ := List.cons.inj same
  obtain ⟨segment, -⟩ := List.cons.inj behind
  exact Percent.segment_injective segment

theorem whole_pageOf {retrieval : Retrieval} {route : String × Option String}
    (inside : route ∈ retrieval.routes) (name : String) :
    ∀ segment ∈ pageOf route name, '/' ∉ segment.toList := by
  obtain ⟨folder, behind⟩ := whole_of_mem_routes inside
  simp only [pageOf, List.mem_cons, Option.mem_toList, forall_eq_or_imp]
  exact ⟨folder, Percent.slash_notMem_segment name, behind⟩

/-- Different names differ in the text of their pages. -/
theorem eq_of_pageOf_text {first second : Retrieval} {route other : String × Option String}
    {name another : String} (known : route ∈ first.routes) (also : other ∈ second.routes)
    (same : "/".intercalate (pageOf route name) = "/".intercalate (pageOf other another)) :
    name = another := by
  have filled (route : String × Option String) (name : String) : pageOf route name ≠ [] :=
    List.cons_ne_nil _ _
  have pages := congrArg Url.pieces same
  rw [Url.pieces_intercalate (filled route name) (whole_pageOf known name),
    Url.pieces_intercalate (filled other another) (whole_pageOf also another)] at pages
  exact pageOf_injective pages

end Retrieval

open Retrieval (eq_of_pageOf_text pageOf)

namespace Http.Settings

variable {settings : Settings} {retrieval : Retrieval} {name : String} {page : List String}

/-- A URL is that of a page below the endpoint: it leads there and nowhere else, and what it asks of
its host is the path of the endpoint with the segments of the page behind it. -/
structure Locates (settings : Settings) (page : List String) (url : Url) : Prop where
  leads : settings.endpoint.Leads page url
  only : ∀ other, settings.endpoint.Leads other url → other = page
  target_eq : requestTarget url = settings.endpoint.pathText ++ "/".intercalate page

/-- How the requests of a retrieval keep to the name that it has: it reads the pages of the name and
posts to those for downloads, and when it succeeds it has read all of them. -/
structure KeepsName (settings : Settings) (retrieval : Retrieval) (name : String)
    (requests : List Request) (succeeded : Prop) : Prop where
  reads : ∀ request ∈ requests, request.method = .get →
    ∃ route ∈ retrieval.routes, settings.Locates (pageOf route name) request.url
  saves : ∀ request ∈ requests, request.method = .post →
    ∃ kind ∈ ["post", "storyitem", "profile-pic"], settings.Locates ["downloads", kind] request.url
  complete : succeeded → ∀ route ∈ retrieval.routes,
    ∃ request ∈ requests, request.method = .get ∧ settings.Locates (pageOf route name) request.url

/-- A retrieval may read what a target asks for. -/
def Visits (settings : Settings) (retrieval : Retrieval) (target : String) : Prop :=
  ∃ credential events answer,
    ((⟨settings, credential⟩ : Access).carryOut retrieval).Path events answer ∧
      ∃ request ∈ requestsOf events, request.method = .get ∧ requestTarget request.url = target

theorem locates_of_leads {url : Url}
    (slash : settings.endpoint.path = .segments (settings.endpoint.folder ++ [""]))
    (filled : page ≠ []) (leads : settings.endpoint.Leads page url) :
    settings.Locates page url := by
  refine ⟨leads, fun other also => also.unique leads, ?_⟩
  rw [requestTarget, leads.query_eq, leads.pathText_eq slash filled]
  exact String.append_empty

/-- A retrieval keeps to its name below an endpoint that ends in a slash. -/
theorem keepsName_of_path (named : retrieval.name? = some name) (single : name ≠ ".")
    (double : name ≠ "..")
    (slash : settings.endpoint.path = .segments (settings.endpoint.folder ++ [""]))
    {credential : Option String} {events : Journal exchanges} {answer : retrieval.Answer}
    (path : ((⟨settings, credential⟩ : Access).carryOut retrieval).Path events answer) :
    settings.KeepsName retrieval name (requestsOf events)
      (∃ tally, retrieval.outcome answer = .ok tally) := by
  have asked (request : Request) (inside : request ∈ requestsOf events) :
      ∃ method page, retrieval.Asks true method page ∧ request.method = method ∧
        settings.endpoint.Leads page request.url := by
    obtain ⟨_, happened⟩ := mem_requestsOf.1 inside
    obtain ⟨method, page, asks, sends⟩ :=
      (Access.only_carryOut retrieval).path path _ happened
    exact ⟨method, page, asks.whenLoggedIn, sends.method_eq, sends.leads⟩
  have plain (route : String × Option String) :
      namedPage route.1 name route.2 = pageOf route name :=
    namedPage_plain single double route.1 route.2
  constructor
  · intro request inside reads
    obtain ⟨method, page, asks, method_eq, leads⟩ := asked request inside
    obtain rfl := method_eq.symm.trans reads
    obtain ⟨route, known, rfl⟩ := (Retrieval.asks_get_iff named).1 asks
    exact ⟨route, known, locates_of_leads slash (List.cons_ne_nil _ _) (plain route ▸ leads)⟩
  · intro request inside saves
    obtain ⟨method, page, asks, method_eq, leads⟩ := asked request inside
    obtain rfl := method_eq.symm.trans saves
    obtain ⟨kind, known, rfl⟩ := asks.download
    exact ⟨kind, known, locates_of_leads slash (List.cons_ne_nil _ _) leads⟩
  · rintro ⟨tally, succeeded⟩ route known
    have asks := (Retrieval.asks_get_iff named).2 ⟨route, known, rfl⟩
    obtain ⟨request, inside, sends⟩ := Access.reads_carryOut asks path succeeded
    exact ⟨request, inside, sends.method_eq,
      locates_of_leads slash (List.cons_ne_nil _ _) (plain route ▸ sends.leads)⟩

/-- A target that a retrieval with a name may read is that of a page of the name. -/
theorem Visits.target_eq {target : String} (visits : settings.Visits retrieval target)
    (named : retrieval.name? = some name) (single : name ≠ ".") (double : name ≠ "..")
    (slash : settings.endpoint.path = .segments (settings.endpoint.folder ++ [""])) :
    ∃ route ∈ retrieval.routes,
      target = settings.endpoint.pathText ++ "/".intercalate (pageOf route name) := by
  obtain ⟨credential, events, answer, path, request, inside, reads, rfl⟩ := visits
  have keeps := keepsName_of_path named single double slash path
  obtain ⟨route, known, locates⟩ := keeps.reads request inside reads
  exact ⟨route, known, locates.target_eq⟩

/-- Names other than one or two dots cannot steer requests. Below an endpoint of the web, whose path
is given a slash at its end, a retrieval reads the pages of its name, where the name is one segment,
and different names never ask for the same. -/
theorem names_keep_to_their_segment {source : String} {endpoint : Url} {settings : Settings}
    (read : Url.ofText? source = some endpoint)
    (web : Request.isWebScheme endpoint.scheme = true)
    (normal : settings.endpoint = endpoint.withTrailingSlash) :
    settings.endpoint = { endpoint with path := .segments (endpoint.folders ++ [""]) } ∧
      (∀ retrieval name, retrieval.name? = some name → name ≠ "." → name ≠ ".." →
        ∀ credential events answer,
          ((⟨settings, credential⟩ : Access).carryOut retrieval).Path events answer →
          settings.KeepsName retrieval name (requestsOf events)
            (∃ tally, retrieval.outcome answer = .ok tally)) ∧
      ∀ first second name other target, first.name? = some name → second.name? = some other →
        name ≠ "." → name ≠ ".." → other ≠ "." → other ≠ ".." →
        settings.Visits first target → settings.Visits second target → name = other := by
  have special : Url.isSpecial endpoint.scheme = true ∧ endpoint.scheme ≠ "file" := by
    simp only [Request.isWebScheme, Bool.or_eq_true, beq_iff_eq] at web
    rcases web with http | https
    · rw [http]
      decide
    · rw [https]
      decide
  have settled := Url.settled_of_ofText? read special.1 special.2
  have whole := normal.trans settled.withTrailingSlash_eq
  have slash : settings.endpoint.path = .segments (settings.endpoint.folder ++ [""]) := by
    rw [normal, settled.folder_withTrailingSlash, settled.withTrailingSlash_eq]
  refine ⟨whole, ?_, ?_⟩
  · intro retrieval name named single double credential events answer path
    exact keepsName_of_path named single double slash path
  · intro first second name other target named also single double single' double' visits too
    obtain ⟨route, known, target_eq⟩ := visits.target_eq named single double slash
    obtain ⟨route', known', also_eq⟩ := too.target_eq also single' double' slash
    have texts := target_eq.symm.trans also_eq
    exact eq_of_pageOf_text known known' ((String.append_right_inj _).1 texts)

/-- What is asked for where no service answers may be read. -/
theorem visits_of_unreachable {target : String} (retrieval : Retrieval)
    (asked : (Method.get, target) ∈
      (requestsOf ((Access.carryOut ⟨settings, none⟩ retrieval).play unreachable []).2).map
        fun request => (request.method, requestTarget request.url)) :
    settings.Visits retrieval target := by
  obtain ⟨request, inside, same⟩ := List.mem_map.1 asked
  obtain ⟨reads, target_eq⟩ := Prod.mk.inj same
  exact ⟨none, _, _, Program.path_play unreachable _ [], request, inside, reads, target_eq⟩

/-- An account with a slash keeps to its segment, and no other name gets there. -/
theorem names_keep_to_their_segment_slash :
    let settings := Settings.usual sampleEndpoint
    let target := "/api/profiles/a%2Fb/followees"
    settings.Visits (.followees "a/b") target ∧
      (∀ credential events answer,
        ((⟨settings, credential⟩ : Access).carryOut (.followees "a/b")).Path events answer →
        settings.KeepsName (.followees "a/b") "a/b" (requestsOf events)
          (∃ tally, (Retrieval.followees "a/b").outcome answer = .ok tally)) ∧
      ¬settings.Visits (.followees "a%2Fb") target := by
  intro settings target
  have read : Url.ofText? "http://service/api" = some sampleEndpoint := by decide +kernel
  have normal : settings.endpoint = sampleEndpoint.withTrailingSlash := rfl
  obtain ⟨-, keeps, apart⟩ := names_keep_to_their_segment read rfl normal
  have visits : settings.Visits (.followees "a/b") target :=
    visits_of_unreachable _ (by decide +kernel)
  refine ⟨visits, keeps (.followees "a/b") "a/b" rfl (by decide) (by decide), fun too => ?_⟩
  have same := apart _ _ "a/b" "a%2Fb" target rfl rfl (by decide) (by decide) (by decide)
    (by decide) visits too
  exact absurd same (by decide)

/-- Dots leave their segment: two dots reach another route, and one dot shares the page of another
account. -/
theorem dots_leave_their_segment :
    let settings := Settings.usual sampleEndpoint
    Url.ofText? "http://service/api" = some sampleEndpoint ∧
      settings.Visits (.followees "..") "/api/followees" ∧
      (∀ route ∈ (Retrieval.followees "..").routes,
        "/api/followees" ≠ settings.endpoint.pathText ++ "/".intercalate (pageOf route "..")) ∧
      settings.Visits (.posts (.hashtag "..") none .unlimited) "/api/posts" ∧
      settings.Visits (.profile ".." .none .usual) "/api/" ∧
      settings.Visits (.followees ".") "/api/profiles/followees" ∧
      settings.Visits (.profile "followees" .none .usual) "/api/profiles/followees" := by
  intro settings
  refine ⟨by decide +kernel, ?_, by decide, ?_, ?_, ?_, ?_⟩
  · exact visits_of_unreachable _ (by decide +kernel)
  · exact visits_of_unreachable _ (by decide +kernel)
  · exact visits_of_unreachable _ (by decide +kernel)
  · exact visits_of_unreachable _ (by decide +kernel)
  · exact visits_of_unreachable _ (by decide +kernel)

end Http.Settings

end Harvest
