import Harvest.Proofs.Url.Segment
import Harvest.Url.Read

/-!
Pages below a URL. A relative path whose segments are no dots is put behind the folder of its base.
A name that is put between others stays in its own segment unless it is one or two dots.
-/

namespace Harvest.Url

/-- The segments of a path around its last one, behind which relative paths are put. -/
def folder (url : Url) : List String :=
  match url.path with
  | .rootless _ => []
  | .segments names => names.dropLast

/-- The segments of a relative path. -/
def pieces (relative : String) : List String :=
  (relative.toList.splitOn '/').map String.ofList

/-- A segment without slashes is a relative path by itself. -/
theorem pieces_segment {segment : String} (whole : '/' ∉ segment.toList) :
    pieces segment = [segment] := by
  rw [pieces, List.splitOn_eq_singleton whole, List.map_singleton, String.ofList_toList]

/-- A segment without slashes ends at the slash behind it. -/
theorem pieces_behind {segment : String} (whole : '/' ∉ segment.toList) (rest : String) :
    pieces (segment ++ "/" ++ rest) = segment :: pieces rest := by
  have characters : (segment ++ "/" ++ rest).toList = segment.toList ++ '/' :: rest.toList := by
    simp
  rw [pieces, characters, List.splitOn_append_cons_self_of_not_mem whole, List.map_cons,
    String.ofList_toList, pieces]

/-! ## Dots -/

/-- A segment that is no dots. -/
def IsPlain (segment : String) : Prop :=
  isSingleDot segment = false ∧ isDoubleDot segment = false

instance (segment : String) : Decidable (IsPlain segment) :=
  inferInstanceAs (Decidable (_ ∧ _))

/-- A segment by itself: it has no slashes and is no dots. -/
structure IsWord (segment : String) : Prop where
  whole : '/' ∉ segment.toList
  plain : IsPlain segment

instance (segment : String) : Decidable (IsWord segment) :=
  decidable_of_iff ('/' ∉ segment.toList ∧ IsPlain segment)
    ⟨fun ⟨whole, plain⟩ => ⟨whole, plain⟩, fun isWord => ⟨isWord.whole, isWord.plain⟩⟩

theorem isPlain_segment {name : String} (single : name ≠ ".") (double : name ≠ "..") :
    IsPlain (Percent.segment name) :=
  ⟨Bool.eq_false_iff.2 fun dots => single (isSingleDot_segment.1 dots),
    Bool.eq_false_iff.2 fun dots => double (isDoubleDot_segment.1 dots)⟩

/-- A segment that others follow is entered, or dots lead elsewhere. -/
theorem descendSegments_cons {rest : List String} (more : rest ≠ []) (above : List String)
    (segment : String) :
    descendSegments false above (segment :: rest) =
      if isDoubleDot segment then descendSegments false (outerSegments above) rest
      else if isSingleDot segment then descendSegments false above rest
      else descendSegments false (above ++ [segment]) rest := by
  rw [descendSegments]
  · rfl
  · exact fun none => more none

/-- Segments that are no dots are put behind the others as they are. -/
theorem descendSegments_plain {segments : List String}
    (plain : ∀ segment ∈ segments, IsPlain segment) (above : List String) :
    descendSegments false above segments = above ++ segments := by
  induction segments generalizing above with
  | nil => rw [descendSegments, List.append_nil]
  | cons segment rest ih =>
      obtain ⟨single, double⟩ := plain segment List.mem_cons_self
      cases rest with
      | nil => simp [descendSegments, single, double, innerSegments]
      | cons next rest =>
          have remaining := ih fun other inside => plain other (List.mem_cons_of_mem segment inside)
          rw [descendSegments_cons (List.cons_ne_nil next rest), single, double]
          simp [remaining]

theorem isPlain_empty : IsPlain "" := by decide

theorem mem_outerSegments {names : List String} {segment : String}
    (inside : segment ∈ outerSegments names) : segment ∈ names := by
  unfold outerSegments at inside
  split at inside
  · exact inside
  · exact (List.dropLast_sublist names).subset inside

/-- No dots are left where segments were put behind others. -/
theorem plain_descendSegments {above : List String} (settled : ∀ segment ∈ above, IsPlain segment)
    (segments : List String) :
    ∀ segment ∈ descendSegments false above segments, IsPlain segment := by
  have ending {names : List String} (settled : ∀ segment ∈ names, IsPlain segment)
      {last : String} (plain : IsPlain last) : ∀ segment ∈ names ++ [last], IsPlain segment := by
    simpa [or_imp, forall_and] using ⟨settled, plain⟩
  have outer {names : List String} (settled : ∀ segment ∈ names, IsPlain segment) :
      ∀ segment ∈ outerSegments names, IsPlain segment :=
    fun segment inside => settled segment (mem_outerSegments inside)
  fun_induction descendSegments false above segments with
  | case1 => exact settled
  | case2 above segment double => exact ending (outer settled) isPlain_empty
  | case3 above segment double single => exact ending settled isPlain_empty
  | case4 above segment double single =>
      exact ending settled ⟨Bool.eq_false_iff.2 single, Bool.eq_false_iff.2 double⟩
  | case5 above segment rest _ double ih => exact ih (outer settled)
  | case6 above segment rest _ double single ih => exact ih settled
  | case7 above segment rest _ double single ih =>
      exact ih (ending settled ⟨Bool.eq_false_iff.2 single, Bool.eq_false_iff.2 double⟩)

section Dots

variable {segment : String} {page : Option String} (plain : ∀ behind ∈ page, IsPlain behind)
  (above : List String)

include plain

/-- Two dots lead out of the folder, with a page behind them or without one. -/
theorem descendSegments_out (dots : isDoubleDot segment = true) :
    descendSegments false above (segment :: page.toList) =
      outerSegments above ++ [page.getD ""] := by
  cases page with
  | none => simp [descendSegments, dots]
  | some page =>
      have behind := descendSegments_plain (List.forall_mem_singleton.2 (plain page rfl))
      rw [Option.toList_some, descendSegments_cons (List.cons_ne_nil _ _), if_pos dots, behind]
      rfl

/-- One dot leads into the folder itself. -/
theorem descendSegments_stay (dot : isSingleDot segment = true)
    (inside : isDoubleDot segment = false) :
    descendSegments false above (segment :: page.toList) = above ++ [page.getD ""] := by
  cases page with
  | none => simp [descendSegments, dot, inside]
  | some page =>
      have behind := descendSegments_plain (List.forall_mem_singleton.2 (plain page rfl))
      rw [Option.toList_some, descendSegments_cons (List.cons_ne_nil _ _), inside, if_pos dot]
      exact behind above

end Dots

/-- Where a name in a folder leads, with a page behind it or without one. One dot leads into the
folder itself, and two dots lead out of it. -/
def namedPage (folder name : String) (page : Option String) : List String :=
  if name = ".." then [page.getD ""]
  else if name = "." then [folder, page.getD ""]
  else folder :: Percent.segment name :: page.toList

/-- Every other name stays in its segment. -/
theorem namedPage_plain {name : String} (single : name ≠ ".") (double : name ≠ "..")
    (folder : String) (page : Option String) :
    namedPage folder name page = folder :: Percent.segment name :: page.toList := by
  rw [namedPage, if_neg double, if_neg single]

/-- A folder of one segment that is no dots and no drive. -/
structure IsFolder (folder : String) : Prop where
  word : IsWord folder
  noDrive : startsWithDrive folder = false

/-- A name in a folder leads to its page, whatever is above them. -/
theorem descendSegments_named {folder : String} (isFolder : IsFolder folder) (name : String)
    (page : Option String) (plain : ∀ behind ∈ page, IsPlain behind) (above : List String) :
    descendSegments false above (folder :: Percent.segment name :: page.toList) =
      above ++ namedPage folder name page := by
  have enter : descendSegments false above (folder :: Percent.segment name :: page.toList) =
      descendSegments false (above ++ [folder]) (Percent.segment name :: page.toList) := by
    rw [descendSegments_cons (List.cons_ne_nil _ _), isFolder.word.plain.1, isFolder.word.plain.2]
    rfl
  rw [enter]
  by_cases double : name = ".."
  · have outside : outerSegments (above ++ [folder]) = above := by
      simp [outerSegments, isFolder.noDrive]
    rw [descendSegments_out plain _ (isDoubleDot_segment.2 double), outside, namedPage,
      if_pos double]
  · have inside : isDoubleDot (Percent.segment name) = false :=
      Bool.eq_false_iff.2 fun dots => double (isDoubleDot_segment.1 dots)
    by_cases single : name = "."
    · rw [descendSegments_stay plain _ (isSingleDot_segment.2 single) inside, namedPage,
        if_neg double, if_pos single, List.append_assoc, List.singleton_append]
    · rw [descendSegments_plain, namedPage_plain single double, List.append_assoc,
        List.singleton_append]
      simp only [List.mem_cons, Option.mem_toList, forall_eq_or_imp]
      exact ⟨isPlain_segment single double, plain⟩

/-! ## Pages -/

/-- A relative path spells a page: its segments come to those of the page, whatever is above. -/
def Spells (relative : String) (page : List String) : Prop :=
  ∀ above, descendSegments false above (pieces relative) = above ++ page

/-- A path without dots spells its segments. -/
theorem spells_plain {relative : String} {page : List String} (split : pieces relative = page)
    (plain : ∀ segment ∈ page, IsPlain segment) : Spells relative page :=
  fun above => split ▸ descendSegments_plain (split ▸ plain) above

/-- The path of a name in a folder. -/
theorem spells_named {folder : String} (isFolder : IsFolder folder) (name : String) :
    Spells (folder ++ "/" ++ Percent.segment name) (namedPage folder name none) := by
  intro above
  rw [pieces_behind isFolder.word.whole, pieces_segment (Percent.slash_notMem_segment name)]
  exact descendSegments_named isFolder name none nofun above

/-- A word spells the page of its name. -/
theorem spells_word {word : String} (isWord : IsWord word) : Spells word [word] :=
  spells_plain (pieces_segment isWord.whole) (List.forall_mem_singleton.2 isWord.plain)

/-- The path of a page behind a name in a folder. -/
theorem spells_behind {folder page : String} (isFolder : IsFolder folder) (isWord : IsWord page)
    (name : String) :
    Spells (folder ++ "/" ++ Percent.segment name ++ "/" ++ page)
      (namedPage folder name (some page)) := by
  intro above
  have together : folder ++ "/" ++ Percent.segment name ++ "/" ++ page =
      folder ++ "/" ++ (Percent.segment name ++ "/" ++ page) := by
    simp only [String.append_assoc]
  rw [together, pieces_behind isFolder.word.whole,
    pieces_behind (Percent.slash_notMem_segment name), pieces_segment isWord.whole]
  exact descendSegments_named isFolder name (some page) (by simpa using isWord.plain) above

/-- A URL leads to a page below the folder of another URL: it names the same service, and the
segments of the page follow those of the folder. -/
structure Leads (base : Url) (page : List String) (url : Url) : Prop where
  scheme_eq : url.scheme = base.scheme
  host_eq : url.host = base.host
  port_eq : url.port = base.port
  path_eq : url.path = .segments (base.folder ++ page)
  query_eq : url.query = none
  fragment_eq : url.fragment = none

/-- A URL leads to one page only. -/
theorem Leads.unique {base url : Url} {page other : List String} (leads : base.Leads page url)
    (also : base.Leads other url) : page = other := by
  have same := leads.path_eq.symm.trans also.path_eq
  exact List.append_cancel_left (UrlPath.segments.inj same)

/-- User name and password lead nowhere. -/
theorem Leads.withoutUserinfo {base url : Url} {page : List String}
    (leads : base.Leads page url) : base.Leads page url.withoutUserinfo :=
  ⟨leads.scheme_eq, leads.host_eq, leads.port_eq, leads.path_eq, leads.query_eq,
    leads.fragment_eq⟩

/-- A relative path leads to its page. -/
theorem leads_of_join? {base url : Url} {relative : String} {page : List String}
    (spells : Spells relative page) (joined : base.join? relative = some url)
    (noFile : url.scheme ≠ "file") : base.Leads page url := by
  unfold join? at joined
  split at joined
  · contradiction
  · next names path =>
      obtain rfl := Option.some.inj joined
      refine ⟨rfl, rfl, rfl, ?_, rfl, rfl⟩
      have folder_eq : base.folder = names.dropLast := by rw [folder, path]
      rw [pathBehind, if_neg noFile, folder_eq]
      exact congrArg _ (spells names.dropLast)

/-! ## Pages as text -/

/-- A page reads back from its segments with slashes between them. -/
theorem pieces_intercalate {page : List String} (filled : page ≠ [])
    (whole : ∀ segment ∈ page, '/' ∉ segment.toList) : pieces ("/".intercalate page) = page := by
  have slash : "/".toList = ['/'] := rfl
  have split : (['/'].intercalate (page.map String.toList)).splitOn '/' = page.map String.toList :=
    List.splitOn_intercalate '/' (by simpa using whole) (by simpa using filled)
  rw [pieces, String.toList_intercalate, slash, split, List.map_map]
  simp

/-- Segments behind slashes, as they are written. -/
theorem join_slashes {page : List String} (filled : page ≠ []) :
    String.join (page.map ("/" ++ ·)) = "/" ++ "/".intercalate page := by
  induction page with
  | nil => contradiction
  | cons segment rest ih =>
      cases rest with
      | nil => simp
      | cons next rest =>
          rw [List.map_cons, String.join_cons, ih (List.cons_ne_nil next rest),
            String.intercalate_cons_cons]
          simp only [String.append_assoc]

/-- The text of a page follows the path of a base that ends in a slash. -/
theorem Leads.pathText_eq {base url : Url} {page : List String} (leads : base.Leads page url)
    (slash : base.path = .segments (base.folder ++ [""])) (filled : page ≠ []) :
    url.pathText = base.pathText ++ "/".intercalate page := by
  have above : base.pathText = String.join (base.folder.map ("/" ++ ·)) ++ "/" := by
    rw [pathText, slash]
    simp
  rw [above, pathText, leads.path_eq]
  dsimp only
  rw [List.map_append, String.join_append, join_slashes filled, String.append_assoc]

end Harvest.Url
