import Harvest.Proofs.Url.Join

/-!
URLs of the web as they are read. Their paths have segments without dots, and they name a host, so
a slash at the end is all that their normal form adds.
-/

namespace Harvest.Url

/-- A URL with a host and with a path that no dots are left in. -/
structure IsSettled (url : Url) : Prop where
  noFile : url.scheme ≠ "file"
  path : ∃ names, url.path = .segments names ∧ ∀ segment ∈ names, IsPlain segment
  host : ∃ host, url.host = some host ∧ host ≠ .name ""

/-- The host of a special scheme is not empty. -/
theorem ne_empty_of_readSpecial? {characters : List Char} {host : Host}
    (read : Host.readSpecial? characters = some host) : host ≠ .name "" := by
  unfold Host.readSpecial? at read
  by_cases bracketed : characters.head? = some '['
  · rw [if_pos bracketed] at read
    obtain ⟨_, -, read⟩ := Option.bind_eq_some_iff.1 read
    obtain ⟨pieces, -, found⟩ := Option.bind_eq_some_iff.1 read
    obtain rfl := Option.some.inj found
    rintro ⟨⟩
  · rw [if_neg bracketed] at read
    obtain ⟨decoded, -, read⟩ := Option.bind_eq_some_iff.1 read
    obtain ⟨name, -, read⟩ := Option.bind_eq_some_iff.1 read
    obtain ⟨_, filled, found⟩ := Option.bind_eq_some_iff.1 read
    split at found
    · obtain ⟨address, -, found⟩ := Option.bind_eq_some_iff.1 found
      obtain rfl := Option.some.inj found
      rintro ⟨⟩
    · obtain rfl := Option.some.inj found
      intro same
      have empty : name = [] := String.ofList_injective (Host.name.inj same)
      rw [empty] at filled
      contradiction

/-- A URL with an authority has the scheme it was read for, the host that the authority names and
the path behind it. -/
theorem readAuthority?_eq_some {scheme : String} {characters : List Char} {url : Url}
    (read : readAuthority? scheme characters = some url) :
    url.scheme = scheme ∧ (∃ name host, readHost? scheme name = some host ∧ url.host = some host) ∧
      ∃ segments, url.path = pathBehind scheme [] segments := by
  unfold readAuthority? at read
  obtain ⟨_, -, read⟩ := Option.bind_eq_some_iff.1 read
  obtain ⟨host, found, read⟩ := Option.bind_eq_some_iff.1 read
  obtain ⟨_, -, read⟩ := Option.bind_eq_some_iff.1 read
  obtain ⟨port, -, read⟩ := Option.bind_eq_some_iff.1 read
  obtain rfl := Option.some.inj read
  exact ⟨rfl, ⟨_, host, found, rfl⟩, _, rfl⟩

/-- A URL of a special scheme with an authority is settled. -/
theorem settled_of_readAuthority? {scheme : String} {characters : List Char} {url : Url}
    (special : isSpecial scheme = true) (noFile : scheme ≠ "file")
    (read : readAuthority? scheme characters = some url) : url.IsSettled := by
  obtain ⟨rfl, ⟨name, host, found, named⟩, segments, path⟩ := readAuthority?_eq_some read
  rw [readHost?, if_pos special] at found
  rw [pathBehind, if_neg noFile] at path
  have plain := plain_descendSegments (List.forall_mem_nil IsPlain)
  exact ⟨noFile, ⟨_, path, plain _⟩, host, named, ne_empty_of_readSpecial? found⟩

theorem scheme_of_readFile? {characters : List Char} {url : Url}
    (read : readFile? characters = some url) : url.scheme = "file" := by
  have path {host : Host} {behind : List Char}
      (found : some (readFilePath host behind) = some url) : url.scheme = "file" := by
    rw [← Option.some.inj found]
    rfl
  unfold readFile? at read
  split at read
  · split at read
    · dsimp only at read
      split at read
      · exact path read
      · obtain ⟨host, -, found⟩ := Option.bind_eq_some_iff.1 read
        exact path found
    · exact path read
  · exact path read

theorem scheme_of_readOther? {scheme : String} {characters : List Char} {url : Url}
    (read : readOther? scheme characters = some url) : url.scheme = scheme := by
  unfold readOther? at read
  split at read
  · exact (readAuthority?_eq_some read).1
  · rw [← Option.some.inj read]
    rfl

/-- A URL of the web that was read is settled. -/
theorem settled_of_ofText? {source : String} {url : Url} (read : ofText? source = some url)
    (special : isSpecial url.scheme = true) (noFile : url.scheme ≠ "file") : url.IsSettled := by
  simp only [ofText?, Option.bind_eq_bind, Option.bind_eq_some_iff] at read
  obtain ⟨⟨scheme, rest⟩, -, read⟩ := read
  split at read
  · exact absurd (scheme_of_readFile? read) noFile
  · next other =>
      split at read
      · next special => exact settled_of_readAuthority? special other read
      · next plain => exact absurd (scheme_of_readOther? read ▸ special) plain

/-! ## A slash at the end -/

/-- The segments of a path, without the empty one behind a slash at its end. -/
def folders (url : Url) : List String :=
  match url.path with
  | .rootless _ => []
  | .segments names => if names.getLast? = some "" then names.dropLast else names

/-- The normal form of an endpoint ends in a slash. -/
theorem IsSettled.withTrailingSlash_eq {url : Url} (settled : url.IsSettled) :
    url.withTrailingSlash = { url with path := .segments (url.folders ++ [""]) } := by
  obtain ⟨names, path, plain⟩ := settled.path
  unfold withTrailingSlash folders
  rw [path]
  dsimp only
  split
  · next slash =>
      obtain ⟨above, rfl⟩ := List.getLast?_eq_some_iff.1 slash
      rw [List.dropLast_concat, ← path]
  · next noSlash =>
      have whole : ∀ segment ∈ names ++ [""], IsPlain segment := by
        simpa [or_imp, forall_and, isPlain_empty] using plain
      rw [pathBehind, if_neg settled.noFile, descendSegments_plain whole, List.nil_append]

/-- Pages of an endpoint lie behind its path, with a slash at its end or without one. -/
theorem IsSettled.folder_withTrailingSlash {url : Url} (settled : url.IsSettled) :
    url.withTrailingSlash.folder = url.folders := by
  rw [settled.withTrailingSlash_eq, folder]
  exact List.dropLast_concat

end Harvest.Url
