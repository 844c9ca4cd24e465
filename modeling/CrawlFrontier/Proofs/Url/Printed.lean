import CrawlFrontier.Proofs.Url.WellFormed

/-!
# Printed URLs are read back

Main statement: a well-formed URL that was printed is read as it was, whatever page the reference
stands on, unless a label of its host is too long to be read. Printing tells well-formed URLs apart
in any case: the parts of a printed URL are cut from it before its host is read.
-/

namespace CrawlFrontier.Url

open CrawlFrontier.Text

/-- Whether a character may stand in a printed URL. -/
def isPrinted (c : Char) : Bool := 0x20 < c.toNat && c.toNat < 0x7F

/-- What is neither a control nor a space may be printed. -/
theorem isPrinted_of_not_isControl {c : Char} (noControl : isControl c = false)
    (noSpace : c ≠ ' ') : isPrinted c = true := by
  have code : c.toNat ≠ ' '.toNat := mt Char.toNat_inj.mp noSpace
  have space : ' '.toNat = 0x20 := rfl
  simp only [isControl, Bool.or_eq_false_iff, decide_eq_false_iff_not] at noControl
  simp only [isPrinted, Bool.and_eq_true, decide_eq_true_eq]
  omega

/-- What a fragment does not escape may be printed. -/
theorem isPrinted_of_fragment {c : Char} (free : escapedInFragment c = false) :
    isPrinted c = true := by
  obtain ⟨noControl, others⟩ := Bool.or_eq_false_iff.mp free
  refine isPrinted_of_not_isControl noControl ?_
  rintro rfl
  cases others

/-- What a path does not escape may be printed. -/
theorem isPrinted_of_path {c : Char} (free : escapedInPath c = false) : isPrinted c = true :=
  isPrinted_of_fragment (Bool.or_eq_false_iff.mp free).1

/-- What user names and passwords do not escape may be printed. -/
theorem isPrinted_of_credentials {c : Char} (free : escapedInCredentials c = false) :
    isPrinted c = true :=
  isPrinted_of_path (Bool.or_eq_false_iff.mp free).1

/-- What a query does not escape may be printed. -/
theorem isPrinted_of_query {c : Char} (free : escapedInSpecialQuery c = false) :
    isPrinted c = true := by
  obtain ⟨noControl, others⟩ := Bool.or_eq_false_iff.mp (Bool.or_eq_false_iff.mp free).1
  refine isPrinted_of_not_isControl noControl ?_
  rintro rfl
  cases others

/-- A character of a host may be printed. -/
theorem isPrinted_of_host {c : Char} (char : Host.isHostChar c = true) : isPrinted c = true := by
  rcases Bool.or_eq_true_iff.mp char with named | mark
  · obtain ⟨ascii, -, allowed⟩ := Idna.isNameChar_iff.mp named
    simp only [Idna.isForbidden, Bool.or_eq_false_iff, decide_eq_false_iff_not,
      beq_eq_false_iff_ne] at allowed
    simp only [isPrinted, Bool.and_eq_true, decide_eq_true_eq]
    omega
  · have marks : ∀ d ∈ ['[', ']', ':'], isPrinted d = true :=
      List.all_iff_forall_prop.mp (by decide)
    exact marks c (by simpa using mark)

/-- A digit may be printed. -/
theorem isPrinted_of_isDigit {c : Char} (digit : c.isDigit = true) : isPrinted c = true := by
  have bounds := Char.isDigit_iff_toNat.mp digit
  have zero : '0'.toNat = 0x30 := rfl
  have nine : '9'.toNat = 0x39 := rfl
  simp only [isPrinted, Bool.and_eq_true, decide_eq_true_eq]
  omega

/-- What a part escapes does not stand in it. -/
theorem not_mem_of_clean {escaped : Char → Bool} {text : List Char} {mark : Char}
    (clean : ∀ c ∈ text, escaped c = false) (marked : escaped mark = true) : mark ∉ text := by
  intro mem
  rw [clean mark mem] at marked
  cases marked

/-- A part behind its mark is cut off again. -/
theorem splitFirst_markedChars {mark : Char} {front : List Char} (absent : mark ∉ front)
    (text : Option String) :
    splitFirst mark (front ++ markedChars mark text) = (front, text.map String.toList) := by
  cases text with
  | none => rw [markedChars, List.append_nil, splitFirst_of_not_mem absent]; rfl
  | some text => rw [markedChars, splitFirst_append absent]; rfl

/-- The parts of a printed reference are cut apart again. -/
theorem ofText_marked {main : List Char} {query fragment : Option String}
    (noQuery : '?' ∉ main) (noFragment : '#' ∉ main)
    (clean : ∀ text ∈ query, '#' ∉ text.toList) :
    Reference.ofText (main ++ markedChars '?' query ++ markedChars '#' fragment)
      = ⟨main, query.map String.toList, fragment.map String.toList⟩ := by
  have absent : '#' ∉ main ++ markedChars '?' query := by
    intro mem
    rcases List.mem_append.mp mem with inside | inside
    · exact noFragment inside
    · cases query with
      | none => cases inside
      | some text =>
        rcases List.mem_cons.mp inside with mark | inside
        · cases mark
        · exact clean text rfl inside
  rw [Reference.ofText, splitFirst_markedChars absent]
  simp only
  rw [splitFirst_markedChars noQuery]

/-- The printed port. -/
theorem mem_portChars {url : Url} {c : Char} (mem : c ∈ url.portChars) :
    c = ':' ∨ c.isDigit = true := by
  unfold portChars at mem
  split at mem
  · rcases List.mem_cons.mp mem with rfl | mem
    · exact .inl rfl
    · exact .inr (Nat.isDigit_of_mem_toDigits (by decide) (by decide) mem)
  · cases mem

/-- The printed credentials. -/
theorem WellFormed.mem_credentialChars {url : Url} (valid : url.WellFormed) {c : Char}
    (mem : c ∈ url.credentialChars) :
    escapedInCredentials c = false ∨ c = ':' ∨ c = '@' := by
  unfold credentialChars at mem
  simp only at mem
  split at mem
  · cases mem
  · simp only [List.mem_append, List.mem_singleton] at mem
    rcases mem with (username | password) | rfl
    · exact .inl (valid.username c username)
    · split at password
      · cases password
      · rcases List.mem_cons.mp password with rfl | password
        · exact .inr (.inl rfl)
        · exact .inl (valid.password c password)
    · exact .inr (.inr rfl)

/-- Printed credentials are cut from what follows them; none are printed if there are none. -/
theorem WellFormed.split_credentials {url : Url} (valid : url.WellFormed) {address : List Char}
    (absent : '@' ∉ address) :
    ∃ credentials,
      (splitLast? '@' (url.credentialChars ++ address) = some (credentials, address) ∨
        splitLast? '@' (url.credentialChars ++ address) = none ∧ url.credentialChars = [] ∧
          credentials = []) ∧
      (splitFirst ':' credentials).1 = url.username.toList ∧
      (splitFirst ':' credentials).2.getD [] = url.password.toList := by
  have colon : ':' ∉ url.username.toList := not_mem_of_clean valid.username rfl
  by_cases none : url.username = "" ∧ url.password = ""
  · have nothing : url.credentialChars = [] := by
      unfold credentialChars
      exact if_pos none
    refine ⟨[], .inr ⟨?_, nothing, rfl⟩, ?_, ?_⟩
    · rw [nothing, List.nil_append, splitLast?_of_not_mem absent]
    · rw [none.1]
      rfl
    · rw [none.2]
      rfl
  · unfold credentialChars
    simp only
    rw [if_neg none, List.append_assoc, List.singleton_append, splitLast?_append absent]
    refine ⟨_, .inl rfl, ?_⟩
    by_cases empty : url.password = ""
    · rw [if_pos empty, List.append_nil, splitFirst_of_not_mem colon, empty]
      exact ⟨rfl, rfl⟩
    · rw [if_neg empty, splitFirst_append colon]
      exact ⟨rfl, rfl⟩

/-- A printed port is read back. -/
theorem WellFormed.readPort_digits {url : Url} (valid : url.WellFormed) {port : UInt16}
    (present : url.port = some port) :
    readPort url.scheme (Nat.toDigits 10 port.toNat) = .ok (url.port, []) := by
  have bound : port.toNat < 65536 := port.toNat_lt
  have digits : (Nat.toDigits 10 port.toNat).span Char.isDigit
      = (Nat.toDigits 10 port.toNat, []) :=
    span_of_forall fun c mem => Nat.isDigit_of_mem_toDigits (by decide) (by decide) mem
  have value : numeral? 10 (Nat.toDigits 10 port.toNat) = some port.toNat :=
    numeral?_toDigits (by decide) (by decide) port.toNat
  have written : ¬ ((Nat.toDigits 10 port.toNat).isEmpty = true ∨
      defaultPort? url.scheme = some port) := by
    rintro (empty | default)
    · exact Nat.toDigits_ne_nil (List.isEmpty_iff.mp empty)
    · exact valid.port (present.trans default.symm)
  have allowed : ¬ (65535 < port.toNat ∨ (([] : List Char) ≠ [] ∧
      ([] : List Char).head? ≠ some '\\')) := by
    rintro (large | ⟨more, -⟩)
    · omega
    · exact more rfl
  rw [readPort, digits]
  simp only [value, Option.getD_some]
  rw [if_neg allowed, UInt16.ofNat_toNat, if_neg written, present]

/-- A printed host is cut from its port. -/
theorem splitHost_address (url : Url) {host : Host} (normal : host.IsNormal) :
    splitHost false (host.chars ++ url.portChars)
      = (host.chars, url.port.map fun port => Nat.toDigits 10 port.toNat) := by
  rw [splitHost_chars normal]
  unfold portChars
  cases url.port with
  | none => simp [splitHost]
  | some port => simp [splitHost]

/-- A printed host with its port is read back, if the host is. -/
theorem WellFormed.readHost_chars {url : Url} (valid : url.WellFormed) {host : Host}
    (normal : host.IsNormal) :
    readHost url.scheme (host.chars ++ url.portChars) =
      host.reread.map fun host => (host, url.port, []) := by
  have special := ofScheme_of_isWeb valid.web
  have filled : host.chars.isEmpty = false := by simpa using Host.chars_ne_nil normal
  unfold readHost
  simp only [special, splitHost_address url normal, filled]
  rw [if_neg (by simp), if_neg (by simp), Host.parse_chars normal]
  cases short : host.isShort with
  | false =>
    rw [Host.reread, short]
    rfl
  | true =>
  rw [Host.reread, short]
  cases present : url.port with
  | none => rfl
  | some port =>
    have unempty : host.isEmpty = false := filled
    have read := valid.readPort_digits present
    change (if host.isEmpty = true then _ else _) = _
    rw [if_neg (by simp [unempty]), read, present]
    rfl

/-- What is printed in front of the path of a URL with the given host. -/
def authority (url : Url) (host : Host) : List Char :=
  url.credentialChars ++ (host.chars ++ url.portChars)

/-- The marks that end the part in front of the path do not stand in it, and it may be printed. -/
theorem WellFormed.mem_authority {url : Url} (valid : url.WellFormed) {host : Host}
    (normal : host.IsNormal) {c : Char} (mem : c ∈ url.authority host) :
    isPrinted c = true ∧ c ∉ ['#', '?', '/', '\\'] := by
  rcases List.mem_append.mp mem with credentials | mem
  · rcases valid.mem_credentialChars credentials with free | rfl | rfl
    · exact ⟨isPrinted_of_credentials free,
        not_mem_of_test (List.all_iff_forall_prop.mp (by decide)) free⟩
    · decide
    · decide
  · rcases List.mem_append.mp mem with inside | port
    · have char := Host.isHostChar_of_mem normal inside
      exact ⟨isPrinted_of_host char,
        not_mem_of_test (List.all_iff_forall_prop.mp (by decide)) char⟩
    · rcases mem_portChars port with rfl | digit
      · decide
      · exact ⟨isPrinted_of_isDigit digit,
          not_mem_of_test (List.all_iff_forall_prop.mp (by decide)) digit⟩

/-- The path of kept segments may be printed, and no query or fragment begins in it. -/
theorem AreSegments.mem_joinSegments {list : List String} (kept : AreSegments list) {c : Char}
    (mem : c ∈ joinSegments list) : isPrinted c = true ∧ c ∉ ['#', '?'] := by
  rcases mem_intercalate mem with rfl | ⟨piece, inside, mem⟩
  · decide
  · obtain ⟨segment, present, rfl⟩ := List.mem_map.mp inside
    have free := (kept segment present).clean c mem
    exact ⟨isPrinted_of_path free,
      not_mem_of_test (List.all_iff_forall_prop.mp (by decide)) free⟩

/-- No mark of credentials is printed in a host and a port. -/
theorem not_mem_address (url : Url) {host : Host} (normal : host.IsNormal) :
    '@' ∉ host.chars ++ url.portChars := by
  intro mem
  rcases List.mem_append.mp mem with inside | port
  · cases Host.isHostChar_of_mem normal inside
  · rcases mem_portChars port with colon | digit
    · cases colon
    · cases digit

/-- What is printed between the slashes of a scheme and the path is more than a mark of
credentials. -/
theorem authority_ne_at {url : Url} {host : Host} (normal : host.IsNormal) :
    url.authority host ≠ ['@'] := by
  intro same
  rcases List.append_eq_singleton_iff.mp same with ⟨-, address⟩ | ⟨-, address⟩
  · exact not_mem_address url normal (by rw [address]; exact List.mem_cons_self)
  · exact Host.chars_ne_nil normal (List.append_eq_nil_iff.mp address).1

/-- What is printed in front of the path is cut from the path. -/
theorem WellFormed.span_authority {url : Url} (valid : url.WellFormed) {host : Host}
    (normal : host.IsNormal) (path : List Char) :
    (url.authority host ++ '/' :: path).span (fun c => !SchemeClass.special.separates c)
      = (url.authority host, '/' :: path) := by
  refine span_append (fun c mem => ?_) (by simp [SchemeClass.separates])
  have plain := (valid.mem_authority normal mem).2
  simp only [List.mem_cons, List.not_mem_nil, or_false, not_or] at plain
  simp [SchemeClass.separates, plain]

/-- What is printed behind the slashes of a scheme is read back, if the host is, the query and the
fragment left to the reference. -/
theorem WellFormed.parseAuthority_chars {url : Url} (valid : url.WellFormed) {host : Host}
    (present : url.host = some host) (normal : host.IsNormal) {list : List String}
    (path : url.path = .segments list) (filled : list ≠ []) (kept : AreSegments list)
    (reference : Reference) :
    parseAuthority url.scheme (url.authority host ++ '/' :: joinSegments list) reference
      = host.reread.map fun _ =>
          Url.withMore { url with query := none, fragment := none } reference := by
  have special := ofScheme_of_isWeb valid.web
  obtain ⟨credentials, parts, username, password⟩ :=
    valid.split_credentials (not_mem_address url normal)
  have root : rootSegments .special ('/' :: joinSegments list) = list :=
    kept.rootSegments_joinSegments filled
  have unempty : host.isEmpty = false := by
    simpa [Host.isEmpty] using Host.chars_ne_nil normal
  unfold parseAuthority
  simp only [special, valid.span_authority normal]
  rw [if_neg (fun both => authority_ne_at normal both.1), authority]
  have kept : Except.ok (Url.withMore
        { scheme := url.scheme
          username := String.ofList (percentEncode escapedInCredentials url.username.toList)
          password := String.ofList (percentEncode escapedInCredentials url.password.toList)
          host := some host
          port := url.port
          path := .segments (rootSegments .special ([] ++ '/' :: joinSegments list))
          query := none
          fragment := none } reference)
      = (.ok (Url.withMore { url with query := none, fragment := none } reference) :
        Except ParseError Url) := by
    rw [percentEncode_of_clean valid.username, percentEncode_of_clean valid.password,
      String.ofList_toList, String.ofList_toList, List.nil_append, root, ← present, ← path]
  -- Without credentials no mark is printed, and then the whole part is the address.
  rcases parts with found | ⟨found, nothing, rfl⟩
  · simp only [found, username, password, valid.readHost_chars normal, Host.reread]
    split
    · exact (if_neg (by simp [unempty])).trans kept
    · rfl
  · simp only [found, username, password]
    rw [nothing, List.nil_append, valid.readHost_chars normal, Host.reread]
    split
    · exact (if_neg (by simp [unempty])).trans kept
    · rfl

/-- The scheme of a page is cut from what follows its colon. -/
theorem WellFormed.splitScheme?_append {url : Url} (valid : url.WellFormed) (rest : List Char) :
    splitScheme? (url.scheme.toList ++ ':' :: rest) = some (url.scheme, rest) := by
  have colon : ':' ∉ url.scheme.toList := by
    rcases isWeb_iff.mp valid.web with scheme | scheme <;> rw [scheme] <;> decide
  rw [splitScheme?, splitFirst_append colon]
  rcases isWeb_iff.mp valid.web with scheme | scheme <;> rw [scheme] <;> rfl

/-- A query and a fragment that are escaped are kept as they are. -/
theorem WellFormed.withMore_self {url : Url} (valid : url.WellFormed) (main : List Char) :
    Url.withMore { url with query := none, fragment := none }
      ⟨main, url.query.map String.toList, url.fragment.map String.toList⟩ = url := by
  have query : (url.query.map String.toList).map (keepQuery .special) = url.query := by
    cases present : url.query with
    | none => rfl
    | some text =>
      have free := percentEncode_of_clean (valid.query text present)
      rw [Option.map_some, Option.map_some, keepQuery, if_neg (by simp), free, String.ofList_toList]
  have fragment : (url.fragment.map String.toList).map keepFragment = url.fragment := by
    cases present : url.fragment with
    | none => rfl
    | some text =>
      have free := percentEncode_of_clean (valid.fragment text present)
      rw [Option.map_some, Option.map_some, keepFragment, free, String.ofList_toList]
  unfold Url.withMore
  simp only [ofScheme_of_isWeb valid.web, query, fragment]

/-- What is printed in front of the query of a URL with the given host and segments. -/
def mainChars (url : Url) (host : Host) (list : List String) : List Char :=
  url.scheme.toList ++ ':' :: '/' :: '/' :: (url.authority host ++ '/' :: joinSegments list)

/-- The parts of a printed page. -/
theorem chars_eq {url : Url} {host : Host} (present : url.host = some host) {list : List String}
    (path : url.path = .segments list) (filled : list ≠ []) :
    url.chars = url.mainChars host list ++ markedChars '?' url.query
      ++ markedChars '#' url.fragment := by
  have segments := chars_segments filled
  simp only [Url.chars, authorityChars, present, path, segments, mainChars, authority,
    List.append_assoc, List.cons_append]

/-- What is printed in front of the query may be printed, and neither a query nor a fragment begins
in it. -/
theorem WellFormed.mem_mainChars {url : Url} (valid : url.WellFormed) {host : Host}
    (normal : host.IsNormal) {list : List String} (kept : AreSegments list) {c : Char}
    (mem : c ∈ url.mainChars host list) : isPrinted c = true ∧ c ∉ ['#', '?'] := by
  have scheme : ∀ c ∈ url.scheme.toList, isPrinted c = true ∧ c ∉ ['#', '?'] := by
    rcases isWeb_iff.mp valid.web with scheme | scheme <;> rw [scheme] <;>
      exact List.all_iff_forall_prop.mp (by decide)
  simp only [mainChars, List.mem_append, List.mem_cons] at mem
  rcases mem with inside | rfl | rfl | rfl | inside | rfl | inside
  · exact scheme c inside
  · decide
  · decide
  · decide
  · obtain ⟨printed, plain⟩ := valid.mem_authority normal inside
    have fewer : ['#', '?'] ⊆ ['#', '?', '/', '\\'] := by decide
    exact ⟨printed, fun marked => plain (fewer marked)⟩
  · decide
  · exact kept.mem_joinSegments inside

/-- Every character of a printed page may be printed. -/
theorem WellFormed.isPrinted_of_mem {url : Url} (valid : url.WellFormed) {c : Char}
    (mem : c ∈ url.chars) : isPrinted c = true := by
  obtain ⟨host, present, normal⟩ := valid.host
  obtain ⟨list, path, filled, kept⟩ := valid.path
  rw [chars_eq present path filled] at mem
  have marked {mark : Char} {text : Option String} (printed : isPrinted mark = true)
      (clean : ∀ inner ∈ text, ∀ d ∈ inner.toList, isPrinted d = true)
      (mem : c ∈ markedChars mark text) : isPrinted c = true := by
    cases text with
    | none => cases mem
    | some inner =>
      rcases List.mem_cons.mp mem with rfl | mem
      · exact printed
      · exact clean inner rfl c mem
  rcases List.mem_append.mp mem with mem | mem
  · rcases List.mem_append.mp mem with mem | mem
    · exact (valid.mem_mainChars normal kept mem).1
    · exact marked rfl
        (fun text inner d inside => isPrinted_of_query (valid.query text inner d inside))
        mem
  · exact marked rfl
      (fun text inner d inside => isPrinted_of_fragment (valid.fragment text inner d inside)) mem

/-- What may be printed is neither a control nor a space. -/
theorem lt_toNat_of_isPrinted {c : Char} (printed : isPrinted c = true) : 0x20 < c.toNat := by
  simp only [isPrinted, Bool.and_eq_true, decide_eq_true_eq] at printed
  exact printed.1

/-- Nothing is dropped from a text without controls and spaces. -/
theorem clean_of_forall {text : List Char} (wide : ∀ c ∈ text, 0x20 < c.toNat) :
    clean text = text := by
  have ends : dropBothWhile (fun c => c.toNat ≤ 0x20) text = text :=
    dropBothWhile_of_forall fun c mem => by simpa using wide c mem
  rw [clean, ends]
  refine List.filter_eq_self.mpr fun c mem => ?_
  have large := wide c mem
  simp only [decide_eq_true_eq]
  refine ⟨?_, ?_, ?_⟩ <;> rintro rfl <;> revert large <;> decide

/-- What is printed in front of the query holds no mark that ends it. -/
theorem WellFormed.not_mem_mainChars {url : Url} (valid : url.WellFormed) {host : Host}
    (normal : host.IsNormal) {list : List String} (kept : AreSegments list) {mark : Char}
    (marks : mark ∈ ['#', '?']) : mark ∉ url.mainChars host list :=
  fun mem => (valid.mem_mainChars normal kept mem).2 marks

/-- The parts of a printed page are cut apart again. -/
theorem WellFormed.ofText_chars {url : Url} (valid : url.WellFormed) {host : Host}
    (present : url.host = some host) (normal : host.IsNormal) {list : List String}
    (path : url.path = .segments list) (filled : list ≠ []) (kept : AreSegments list) :
    Reference.ofText (clean url.chars) =
      ⟨url.mainChars host list, url.query.map String.toList, url.fragment.map String.toList⟩ := by
  rw [clean_of_forall fun c mem => lt_toNat_of_isPrinted (valid.isPrinted_of_mem mem),
    chars_eq present path filled]
  exact ofText_marked (valid.not_mem_mainChars normal kept (by decide))
    (valid.not_mem_mainChars normal kept (by decide))
    fun text inner => not_mem_of_clean (valid.query text inner) rfl

/-- Whether a printed URL is short enough to be read: its host is. -/
def isShort (url : Url) : Bool := url.host.all Host.isShort

/-- What becomes of a printed URL when it is read. -/
def reread (url : Url) : Except ParseError Url :=
  if url.isShort then .ok url else .error .invalidDomainName

/-- A printed page is read as it was, whatever base the reference stands to, if it is short
enough. -/
theorem WellFormed.parseFrom_chars {url : Url} (valid : url.WellFormed) (base : Option Url) :
    parseFrom base url.chars = url.reread := by
  obtain ⟨host, present, normal⟩ := valid.host
  obtain ⟨list, path, filled, kept⟩ := valid.path
  have special := ofScheme_of_isWeb valid.web
  have slashes : ∃ c rest, url.authority host ++ '/' :: joinSegments list = c :: rest ∧
      isSlash c = false := by
    cases shape : url.authority host with
    | nil =>
      obtain ⟨-, address⟩ := List.append_eq_nil_iff.mp shape
      exact absurd (List.append_eq_nil_iff.mp address).1 (Host.chars_ne_nil normal)
    | cons c rest =>
      have first : c ∈ url.authority host := by rw [shape]; exact List.mem_cons_self
      have plain := (valid.mem_authority normal first).2
      simp only [List.mem_cons, List.not_mem_nil, or_false, not_or] at plain
      exact ⟨c, _, rfl, by simp [isSlash, plain]⟩
  obtain ⟨c, rest, begins, noSlash⟩ := slashes
  have dropped : ('/' :: '/' :: (url.authority host ++ '/' :: joinSegments list)).dropWhile isSlash
      = url.authority host ++ '/' :: joinSegments list := by
    rw [begins, List.dropWhile_cons_of_pos rfl, List.dropWhile_cons_of_pos rfl,
      List.dropWhile_cons_of_neg (by simp [noSlash])]
  have absolute (main : List Char) := valid.parseAuthority_chars present normal path filled kept
    ⟨main, url.query.map String.toList, url.fragment.map String.toList⟩
  have again : (host.reread.map fun _ => url) = url.reread := by
    rw [Host.reread, reread, isShort, present, Option.all_some]
    cases host.isShort <;> rfl
  unfold parseFrom
  simp only [valid.ofText_chars present normal path filled kept, mainChars,
    valid.splitScheme?_append]
  unfold parseWithScheme
  simp only [special, dropped, absolute, valid.withMore_self, again]
  split
  · rw [if_pos (by simp [isSlash])]
  · rfl

/-- The host, the port and the credentials are known from what is printed in front of the path. -/
theorem WellFormed.authority_injective {a b : Url} (validA : a.WellFormed) (validB : b.WellFormed)
    {hostA hostB : Host} (normalA : hostA.IsNormal) (normalB : hostB.IsNormal)
    (same : a.authority hostA = b.authority hostB) :
    a.username = b.username ∧ a.password = b.password ∧ hostA = hostB ∧ a.port = b.port := by
  obtain ⟨credentialsA, partsA, usernameA, passwordA⟩ :=
    validA.split_credentials (not_mem_address a normalA)
  obtain ⟨credentialsB, partsB, usernameB, passwordB⟩ :=
    validB.split_credentials (not_mem_address b normalB)
  -- Both authorities are cut at the same mark, or neither has one.
  have cut : credentialsA = credentialsB ∧
      hostA.chars ++ a.portChars = hostB.chars ++ b.portChars := by
    unfold authority at same
    rw [same] at partsA
    rcases partsA with foundA | ⟨foundA, nothingA, rfl⟩
    · rcases partsB with foundB | ⟨foundB, -, -⟩
      · exact Prod.mk.inj (Option.some.inj (foundA.symm.trans foundB))
      · cases foundA.symm.trans foundB
    · rcases partsB with foundB | ⟨-, nothingB, rfl⟩
      · cases foundA.symm.trans foundB
      · rw [nothingA, nothingB] at same
        exact ⟨rfl, same⟩
  obtain ⟨rfl, address⟩ := cut
  have split := splitHost_address a normalA
  rw [address, splitHost_address b normalB] at split
  obtain ⟨hosts, ports⟩ := Prod.mk.inj split
  have digits : Function.Injective fun port : UInt16 => Nat.toDigits 10 port.toNat := by
    intro first second alike
    have read (number : Nat) : numeral? 10 (Nat.toDigits 10 number) = some number :=
      numeral?_toDigits (by decide) (by decide) number
    have numbers := congrArg (numeral? 10) alike
    simp only [read] at numbers
    exact UInt16.toNat_inj.mp (Option.some.inj numbers)
  exact ⟨String.toList_inj.mp (usernameA.symm.trans usernameB),
    String.toList_inj.mp (passwordA.symm.trans passwordB),
    (Host.chars_injective normalB normalA hosts).symm, (Option.map_injective digits ports).symm⟩

/-- Printing tells pages apart. -/
theorem WellFormed.chars_injective {a b : Url} (validA : a.WellFormed) (validB : b.WellFormed)
    (same : a.chars = b.chars) : a = b := by
  obtain ⟨hostA, presentA, normalA⟩ := validA.host
  obtain ⟨hostB, presentB, normalB⟩ := validB.host
  obtain ⟨listA, pathA, filledA, keptA⟩ := validA.path
  obtain ⟨listB, pathB, filledB, keptB⟩ := validB.path
  have references := validA.ofText_chars presentA normalA pathA filledA keptA
  rw [same, validB.ofText_chars presentB normalB pathB filledB keptB] at references
  obtain ⟨mains, queries, fragments⟩ := Reference.mk.inj references
  have schemes := validA.splitScheme?_append
    ('/' :: '/' :: (a.authority hostA ++ '/' :: joinSegments listA))
  rw [← mainChars, ← mains, mainChars, validB.splitScheme?_append] at schemes
  obtain ⟨scheme, rest⟩ := Prod.mk.inj (Option.some.inj schemes)
  have split := validA.span_authority normalA (joinSegments listA)
  rw [← (List.cons.inj (List.cons.inj rest).2).2, validB.span_authority normalB] at split
  obtain ⟨authorities, paths⟩ := Prod.mk.inj split
  obtain ⟨username, password, rfl, port⟩ :=
    authority_injective validB validA normalB normalA authorities
  have path : a.path = b.path := by
    rw [pathA, pathB, ← keptA.rootSegments_joinSegments filledA, ← paths,
      keptB.rootSegments_joinSegments filledB]
  have texts : Function.Injective String.toList := fun _ _ => String.toList_inj.mp
  have query := Option.map_injective texts queries
  have fragment := Option.map_injective texts fragments
  have host := presentA.trans presentB.symm
  cases a
  cases b
  exact Url.mk.injEq .. ▸ ⟨scheme.symm, username.symm, password.symm, host, port.symm, path,
    query.symm, fragment.symm⟩

end CrawlFrontier.Url
