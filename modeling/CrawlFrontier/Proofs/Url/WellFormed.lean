import CrawlFrontier.Proofs.Steps
import CrawlFrontier.Proofs.Url.Host
import CrawlFrontier.Proofs.Url.Segments

/-!
# URLs of pages are well formed

In a URL that was read every part is in its escaped form. Main statement: a reference that names a
page gives a well-formed URL, if the base that it stands to is well formed or no page.
-/

namespace CrawlFrontier.Url

open CrawlFrontier.Text

/-- A URL of a page with all its parts in the form in which they are kept. -/
structure WellFormed (url : Url) : Prop where
  /-- The scheme is one of the two that pages are fetched by. -/
  web : url.isWeb = true
  /-- The user name is escaped. -/
  username : ∀ c ∈ url.username.toList, escapedInCredentials c = false
  /-- The password is escaped. -/
  password : ∀ c ∈ url.password.toList, escapedInCredentials c = false
  /-- There is a host in normal form. -/
  host : ∃ host, url.host = some host ∧ host.IsNormal
  /-- The port is not that of the scheme. -/
  port : url.port ≠ defaultPort? url.scheme
  /-- The path has segments, each in the form in which it is kept. -/
  path : ∃ list, url.path = .segments list ∧ list ≠ [] ∧ AreSegments list
  /-- The query is escaped. -/
  query : ∀ text ∈ url.query, ∀ c ∈ text.toList, escapedInSpecialQuery c = false
  /-- The fragment is escaped. -/
  fragment : ∀ text ∈ url.fragment, ∀ c ∈ text.toList, escapedInFragment c = false

/-- The two schemes of pages. -/
theorem isWeb_iff {url : Url} : url.isWeb = true ↔ url.scheme = "http" ∨ url.scheme = "https" := by
  simp [isWeb]

/-- Pages have special schemes. -/
theorem ofScheme_of_isWeb {url : Url} (web : url.isWeb = true) :
    SchemeClass.ofScheme url.scheme = .special := by
  rcases isWeb_iff.mp web with scheme | scheme <;> rw [scheme] <;> rfl

/-- The schemes of pages have ports of their own. -/
theorem defaultPort?_of_isWeb {url : Url} (web : url.isWeb = true) :
    ∃ port, defaultPort? url.scheme = some port := by
  rcases isWeb_iff.mp web with scheme | scheme <;> rw [scheme]
  · exact ⟨80, rfl⟩
  · exact ⟨443, rfl⟩

/-- A port that is read is not that of the scheme. -/
theorem readPort_ne_default {scheme : String} {text rest : List Char} {port : Option UInt16}
    (special : (defaultPort? scheme).isSome = true)
    (read : readPort scheme text = .ok (port, rest)) : port ≠ defaultPort? scheme := by
  unfold readPort at read
  simp only at read
  split at read
  · cases read
  · have same := congrArg Prod.fst (Except.ok.inj read)
    simp only at same
    split at same
    · rw [← same]
      intro none
      rw [← none] at special
      cases special
    · next other =>
      rw [← same]
      exact fun default => other (.inr default.symm)

/-- The host that is read for a special scheme is in normal form, and the port is not that of the
scheme. -/
theorem readHost_spec {scheme : String} {text rest : List Char} {host : Host}
    {port : Option UInt16} (special : SchemeClass.ofScheme scheme = .special)
    (default : (defaultPort? scheme).isSome = true)
    (read : readHost scheme text = .ok (host, port, rest)) :
    host.IsNormal ∧ port ≠ defaultPort? scheme := by
  unfold readHost at read
  simp only [special] at read
  split at read
  · cases read
  · split at read
    · next general => cases general
    · obtain ⟨found, parsed, read⟩ := bind_eq_ok.mp read
      split at read
      · obtain ⟨rfl, rfl, -⟩ := Except.ok.inj read
        refine ⟨Host.isNormal_of_parse parsed, fun none => ?_⟩
        rw [← none] at default
        cases default
      · split at read
        · cases read
        · obtain ⟨⟨number, behind⟩, port, read⟩ := bind_eq_ok.mp read
          obtain ⟨rfl, rfl, -⟩ := Except.ok.inj read
          exact ⟨Host.isNormal_of_parse parsed, readPort_ne_default default port⟩

/-- What is read behind the two slashes in front of a host: a URL in its parts, with the query and
the fragment of the reference. -/
theorem parseAuthority_spec {scheme : String} {text : List Char} {reference : Reference}
    {url : Url} (read : parseAuthority scheme text reference = .ok url) :
    ∃ username password address host port rest path,
      readHost scheme address = .ok (host, port, rest) ∧
      url = withMore
        { scheme
          username := String.ofList (percentEncode escapedInCredentials username)
          password := String.ofList (percentEncode escapedInCredentials password)
          host := some host
          port
          path := .segments (rootSegments (.ofScheme scheme) path)
          query := none
          fragment := none } reference := by
  unfold parseAuthority at read
  simp only at read
  split at read
  · cases read
  · obtain ⟨⟨host, port, rest⟩, found, read⟩ := bind_eq_ok.mp read
    -- The credentials may be missing; what is made of them is the same in both cases.
    split at read
    all_goals
      split at read
      · cases read
      · exact ⟨_, _, _, host, port, rest, _, found, (Except.ok.inj read).symm⟩

/-- What is read behind the slashes of a scheme has that scheme. -/
theorem scheme_of_parseAuthority {scheme : String} {text : List Char} {reference : Reference}
    {url : Url} (read : parseAuthority scheme text reference = .ok url) : url.scheme = scheme := by
  obtain ⟨username, password, address, host, port, rest, path, -, rfl⟩ := parseAuthority_spec read
  rfl

/-- A query that is kept for a special scheme is escaped. -/
theorem keepQuery_clean {query : List Char} :
    ∀ c ∈ (keepQuery .special query).toList, escapedInSpecialQuery c = false := by
  intro c mem
  rw [keepQuery, if_neg (by simp), String.toList_ofList] at mem
  exact percentEncode_clean (List.all_iff_forall_prop.mp (by decide)) mem

/-- A fragment that is kept is escaped. -/
theorem keepFragment_clean {fragment : List Char} :
    ∀ c ∈ (keepFragment fragment).toList, escapedInFragment c = false := by
  intro c mem
  rw [keepFragment, String.toList_ofList] at mem
  exact percentEncode_clean (List.all_iff_forall_prop.mp (by decide)) mem

/-- A well-formed URL stays so with the query and the fragment of a reference. -/
theorem WellFormed.withMore {url : Url} (valid : url.WellFormed) (reference : Reference) :
    (url.withMore reference).WellFormed where
  web := valid.web
  username := valid.username
  password := valid.password
  host := valid.host
  port := valid.port
  path := valid.path
  query := by
    intro text mem
    obtain ⟨query, -, rfl⟩ := Option.map_eq_some_iff.mp mem
    rw [ofScheme_of_isWeb valid.web]
    exact keepQuery_clean
  fragment := by
    intro text mem
    obtain ⟨fragment, -, rfl⟩ := Option.map_eq_some_iff.mp mem
    exact keepFragment_clean

/-- A well-formed URL stays so with other kept segments. -/
theorem WellFormed.withSegments {url : Url} (valid : url.WellFormed) {list : List String}
    (kept : AreSegments list ∧ list ≠ []) : WellFormed { url with path := .segments list } where
  web := valid.web
  username := valid.username
  password := valid.password
  host := valid.host
  port := valid.port
  path := ⟨list, rfl, kept.2, kept.1⟩
  query := valid.query
  fragment := valid.fragment

/-- A well-formed URL stays so with another host in normal form. -/
theorem WellFormed.withHost {url : Url} (valid : url.WellFormed) {host : Host}
    (normal : host.IsNormal) : WellFormed { url with host := some host } where
  web := valid.web
  username := valid.username
  password := valid.password
  host := ⟨host, rfl, normal⟩
  port := valid.port
  path := valid.path
  query := valid.query
  fragment := valid.fragment

/-- A page that is read behind the slashes of its scheme is well formed. -/
theorem WellFormed.of_parseAuthority {scheme : String} {text : List Char} {reference : Reference}
    {url : Url} (read : parseAuthority scheme text reference = .ok url)
    (web : url.isWeb = true) : url.WellFormed := by
  have same := scheme_of_parseAuthority read
  have special := ofScheme_of_isWeb web
  obtain ⟨port, default⟩ := defaultPort?_of_isWeb web
  rw [same] at special default
  obtain ⟨username, password, address, host, port, rest, path, found, rfl⟩ :=
    parseAuthority_spec read
  obtain ⟨normal, other⟩ := readHost_spec special (by rw [default]; rfl) found
  have credentials (text : List Char) :
      ∀ c ∈ (String.ofList (percentEncode escapedInCredentials text)).toList,
        escapedInCredentials c = false := by
    intro c mem
    rw [String.toList_ofList] at mem
    exact percentEncode_clean (List.all_iff_forall_prop.mp (by decide)) mem
  have segments := areSegments_rootSegments path
  refine WellFormed.withMore ?_ reference
  rw [special]
  exact
    { web
      username := credentials username
      password := credentials password
      host := ⟨host, rfl, normal⟩
      port := other
      path := ⟨_, rfl, segments.2, segments.1⟩
      query := fun text none => nomatch none
      fragment := fun text none => nomatch none }

/-- The same path with what a reference says is well formed. -/
theorem WellFormed.atSamePath {base : Url} (valid : base.WellFormed) (reference : Reference) :
    (base.atSamePath reference).WellFormed := by
  unfold Url.atSamePath
  split
  · exact
      { web := valid.web
        username := valid.username
        password := valid.password
        host := valid.host
        port := valid.port
        path := valid.path
        query := valid.query
        fragment := by
          intro text mem
          obtain ⟨fragment, -, rfl⟩ := Option.map_eq_some_iff.mp mem
          exact keepFragment_clean }
  · exact valid.withMore reference

/-- The path of a well-formed URL is made of its segments, of which there is one at least. -/
theorem WellFormed.path_eq {base : Url} (valid : base.WellFormed) :
    base.path = .segments base.segments ∧ base.segments ≠ [] ∧ AreSegments base.segments := by
  obtain ⟨list, path, filled, kept⟩ := valid.path
  have segments : base.segments = list := by rw [Url.segments, path]
  rw [segments]
  exact ⟨path, filled, kept⟩

/-- The segments of a well-formed URL are kept segments. -/
theorem WellFormed.segments {base : Url} (valid : base.WellFormed) :
    AreSegments base.segments :=
  valid.path_eq.2.2

/-- A path followed from the last segment is well formed. -/
theorem WellFormed.atRelativePath {base : Url} (valid : base.WellFormed) (text : List Char) :
    (base.atRelativePath text).WellFormed := by
  have special := ofScheme_of_isWeb valid.web
  have turned : AreSegments base.segments.reverse :=
    fun segment mem => valid.segments segment (List.mem_reverse.mp mem)
  unfold Url.atRelativePath
  simp only [special]
  exact valid.withSegments (turned.dropLast.follow text)

/-- The same path belongs to the same scheme. -/
theorem scheme_atSamePath (base : Url) (reference : Reference) :
    (base.atSamePath reference).scheme = base.scheme := by
  unfold Url.atSamePath
  split <;> rfl

/-- What a reference without a scheme names has the scheme of its base. -/
theorem scheme_of_parseRelative {base url : Url} {reference : Reference}
    (read : parseRelative base reference = .ok url) : url.scheme = base.scheme := by
  unfold parseRelative at read
  simp only at read
  split at read
  · obtain rfl := Except.ok.inj read
    exact scheme_atSamePath base reference
  · exact scheme_of_parseAuthority read
  · split at read
    · split at read
      · exact scheme_of_parseAuthority read
      · obtain rfl := Except.ok.inj read
        rfl
    · obtain rfl := Except.ok.inj read
      rfl

/-- What a reference on a page names with the scheme of the page is well formed. -/
theorem WellFormed.of_parseRelative {base url : Url} (valid : base.WellFormed)
    {reference : Reference} (read : parseRelative base reference = .ok url)
    (web : url.isWeb = true) : url.WellFormed := by
  have special := ofScheme_of_isWeb valid.web
  have root : AreSegments [] := fun segment mem => nomatch mem
  unfold parseRelative at read
  simp only [special] at read
  split at read
  · obtain rfl := Except.ok.inj read
    exact valid.atSamePath reference
  · exact WellFormed.of_parseAuthority read web
  · split at read
    · split at read
      · exact WellFormed.of_parseAuthority read web
      · obtain rfl := Except.ok.inj read
        exact (valid.withSegments (root.follow _)).withMore reference
    · obtain rfl := Except.ok.inj read
      exact (valid.atRelativePath _).withMore reference

/-- A file on a host is a file. -/
theorem scheme_of_parseFileHost {text : List Char} {url : Url}
    (read : parseFileHost text = .ok url) : url.scheme = "file" := by
  unfold parseFileHost at read
  simp only at read
  split at read
  · obtain rfl := Except.ok.inj read
    rfl
  · split at read
    · obtain rfl := Except.ok.inj read
      rfl
    · obtain ⟨host, -, read⟩ := bind_eq_ok.mp read
      split at read
      · obtain rfl := Except.ok.inj read
        rfl
      · obtain rfl := Except.ok.inj read
        rfl

/-- What stands at a root is a file. -/
theorem scheme_atRoot (base : Option Url) (path : List Char) :
    (parseFile.atRoot base path).scheme = "file" := by
  unfold parseFile.atRoot
  repeat' split
  all_goals rfl

/-- What a reference to a file names is a file. -/
theorem scheme_of_parseFile {base : Option Url} {reference : Reference} {url : Url}
    (file : ∀ page ∈ base, page.scheme = "file")
    (read : parseFile base reference = .ok url) : url.scheme = "file" := by
  unfold parseFile at read
  simp only at read
  split at read
  · next page same =>
    obtain rfl := Except.ok.inj read
    rw [scheme_atSamePath]
    exact file page rfl
  · obtain rfl := Except.ok.inj read
    rfl
  · split at read
    · split at read
      · obtain ⟨found, host, rfl⟩ := map_eq_ok read
        have file : found.scheme = "file" := scheme_of_parseFileHost host
        exact file
      · obtain rfl := Except.ok.inj read
        exact scheme_atRoot _ _
    · split at read
      · next page =>
        split at read
        · obtain rfl := Except.ok.inj read
          rfl
        · obtain rfl := Except.ok.inj read
          exact file page rfl
      · obtain rfl := Except.ok.inj read
        rfl

/-- The class of files has one scheme. -/
theorem eq_file_of_ofScheme {scheme : String} (file : SchemeClass.ofScheme scheme = .file) :
    scheme = "file" := by
  unfold SchemeClass.ofScheme at file
  split at file
  · assumption
  · split at file <;> cases file

/-- What a reference with a scheme names has that scheme. -/
theorem scheme_of_parseWithScheme {base : Option Url} {scheme : String} {reference : Reference}
    {url : Url} (read : parseWithScheme base scheme reference = .ok url) : url.scheme = scheme := by
  have sameScheme : ∀ page ∈ base.filter (·.scheme = scheme), page.scheme = scheme := by
    intro page mem
    simpa using (Option.mem_filter_iff.mp mem).2
  unfold parseWithScheme at read
  simp only at read
  split at read
  · next file =>
    obtain rfl := eq_file_of_ofScheme file
    exact scheme_of_parseFile sameScheme read
  · split at read
    · next page present =>
      split at read
      · exact scheme_of_parseAuthority read
      · rw [scheme_of_parseRelative read]
        exact sameScheme page present
    · exact scheme_of_parseAuthority read
  · split at read
    · exact scheme_of_parseAuthority read
    · obtain rfl := Except.ok.inj read
      rfl
    · obtain rfl := Except.ok.inj read
      rfl

/-- A page that a reference with a scheme names is well formed, if its base is well formed or no
page. -/
theorem WellFormed.of_parseWithScheme {base : Option Url} {scheme : String} {reference : Reference}
    {url : Url} (valid : ∀ page ∈ base, page.isWeb = true → page.WellFormed)
    (read : parseWithScheme base scheme reference = .ok url) (web : url.isWeb = true) :
    url.WellFormed := by
  have same := scheme_of_parseWithScheme read
  have special := ofScheme_of_isWeb web
  rw [same] at special
  unfold parseWithScheme at read
  simp only [special] at read
  split at read
  · next page present =>
    split at read
    · exact WellFormed.of_parseAuthority read web
    · have scheme := scheme_of_parseRelative read
      have pageWeb : page.isWeb = true := by
        rw [isWeb_iff, ← scheme]
        exact isWeb_iff.mp web
      have mem := (Option.mem_filter_iff.mp present).1
      exact (valid page mem pageWeb).of_parseRelative read web
  · exact WellFormed.of_parseAuthority read web

/-- A page that a reference without a scheme names is well formed, if its base is well formed or no
page. -/
theorem WellFormed.of_parseWithoutScheme {base : Option Url} {reference : Reference} {url : Url}
    (valid : ∀ page ∈ base, page.isWeb = true → page.WellFormed)
    (read : parseWithoutScheme base reference = .ok url) (web : url.isWeb = true) :
    url.WellFormed := by
  unfold parseWithoutScheme at read
  split at read
  · cases read
  · next page =>
    have ofPage (scheme : url.scheme = page.scheme) : page.WellFormed := by
      refine valid page rfl ?_
      rw [isWeb_iff, ← scheme]
      exact isWeb_iff.mp web
    split at read
    · next plain =>
      split at read
      -- The URL would be that of a page with a plain path, which no well-formed page has.
      · obtain rfl := Except.ok.inj read
        obtain ⟨list, path, -, -⟩ := (ofPage (scheme_atSamePath page _)).path
        rw [plain] at path
        cases path
      · cases read
    · split at read
      · next file =>
        have scheme : url.scheme = "file" := by
          refine scheme_of_parseFile (fun other mem => ?_) read
          obtain rfl := Option.mem_some_iff.mp mem
          exact file
        rcases isWeb_iff.mp web with http | https
        · rw [scheme] at http
          exact absurd http (by decide)
        · rw [scheme] at https
          exact absurd https (by decide)
      · exact (ofPage (scheme_of_parseRelative read)).of_parseRelative read web

/-- A page that a reference names is well formed, if its base is well formed or no page. -/
theorem WellFormed.of_parseFrom {base : Option Url} {text : List Char} {url : Url}
    (valid : ∀ page ∈ base, page.isWeb = true → page.WellFormed)
    (read : parseFrom base text = .ok url) (web : url.isWeb = true) : url.WellFormed := by
  unfold parseFrom at read
  simp only at read
  split at read
  · exact WellFormed.of_parseWithScheme valid read web
  · exact WellFormed.of_parseWithoutScheme valid read web

/-- A page that stands on no other is well formed. -/
theorem WellFormed.of_parseFrom_none {text : List Char} {url : Url}
    (read : parseFrom none text = .ok url) (web : url.isWeb = true) : url.WellFormed :=
  of_parseFrom (fun page mem _ => absurd mem (Option.not_mem_none page)) read web

end CrawlFrontier.Url
