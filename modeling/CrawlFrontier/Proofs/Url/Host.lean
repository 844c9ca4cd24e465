import CrawlFrontier.Proofs.Idna.Plain
import CrawlFrontier.Proofs.Url.Address
import CrawlFrontier.Url.Parser

/-!
# Printed hosts are read back

The hosts that are read for special schemes are in normal form: a domain name is one in ASCII and is
not an address. Main statements: a printed host in normal form is read as it was, and so is what is
left of a domain name without the label in front, unless a label is too long to be read. Such a host
is refused, but printing tells it apart from all others all the same.
-/

namespace CrawlFrontier.Url

open CrawlFrontier.Text CrawlFrontier.Idna

namespace Host

/-- Whether a host is one that is read for special schemes. -/
def IsNormal : Host → Prop
  | domain name => name.toList ≠ [] ∧ IsAsciiName name.toList ∧
      Ipv4.endsInNumber name.toList = false
  | ipv4 _ => True
  | ipv6 _ => True
  | verbatim _ => False

/-- What is read for special schemes is in normal form. -/
theorem isNormal_of_parse {text : List Char} {host : Host} (read : parse text = .ok host) :
    host.IsNormal := by
  unfold parse at read
  split at read
  · unfold parseBracketed at read
    split at read
    · split at read
      · obtain rfl := Except.ok.inj read
        trivial
      · cases read
    · cases read
  · unfold parseDomain at read
    split at read
    · next name found =>
      obtain ⟨decoded, -, ascii⟩ := Option.bind_eq_some_iff.mp found
      unfold ofAscii at read
      split at read
      · cases read
      · next filled =>
        split at read
        · split at read
          · obtain rfl := Except.ok.inj read
            trivial
          · cases read
        · next named =>
          obtain rfl := Except.ok.inj read
          simp only [IsNormal, String.toList_ofList]
          exact ⟨by simpa using filled, .of_toAscii? ascii, by simpa using named⟩
    · cases read

/-- Whether a printed host is short enough to be read: no label of a domain name has more than two
thousand characters behind the mark of written labels. -/
def isShort : Host → Bool
  | domain name => Idna.isShort name.toList
  | _ => true

/-- What becomes of a printed host when it is read. -/
def reread (host : Host) : Except ParseError Host :=
  if host.isShort then .ok host else .error .invalidDomainName

/-- A forbidden character stands in no name in ASCII. -/
theorem not_mem_of_isForbidden {name : List Char} (named : IsAsciiName name) {c : Char}
    (forbidden : isForbidden c = true) : c ∉ name := by
  intro mem
  have allowed := (isNameChar_iff.mp (named.isNameChar mem)).2.2
  rw [forbidden] at allowed
  cases allowed

/-- A name in ASCII is read as itself, if it is short enough. -/
theorem parse_of_isAsciiName {name : List Char} (named : IsAsciiName name) :
    parse name = if Idna.isShort name then ofAscii name else .error .invalidDomainName := by
  have bytes : percentDecode name = utf8 name :=
    percentDecode_of_not_mem (not_mem_of_isForbidden named rfl)
  have read : (fromUtf8? (percentDecode name) >>= toAscii?) =
      if Idna.isShort name then some name else none := by
    rw [bytes, fromUtf8?_utf8]
    exact named.toAscii?_eq
  unfold parse
  split
  · exact absurd List.mem_cons_self (not_mem_of_isForbidden named rfl)
  · rw [parseDomain, read]
    cases Idna.isShort name <;> rfl

/-- An address of the shorter kind is a name in ASCII, and a short one. -/
theorem isAsciiName_ipv4 (address : Ipv4) :
    IsAsciiName address.text ∧ Idna.isShort address.text = true := by
  have digits : ∀ c ∈ printedDigits 10, isNameChar c = true ∧ c ≠ '.' ∧ c ≠ 'x' :=
    List.all_iff_forall_prop.mp (by decide)
  rw [Ipv4.text_eq]
  refine isAsciiName_of_isNameChar (by simp [Ipv4.printed]) ?_ ?_
  · intro label mem c inside
    have digit := digits c ((Ipv4.mem_printed mem).2 c inside)
    exact ⟨digit.1, digit.2.1⟩
  · intro label mem
    obtain ⟨filled, decimal⟩ := Ipv4.mem_printed mem
    cases label with
    | nil => exact absurd rfl filled
    | cons c label =>
      have other : c ≠ 'x' := (digits c (decimal c List.mem_cons_self)).2.2
      simp [asciiMark, List.isPrefixOf, Ne.symm other]

/-- The host that a printed one was, whether or not it is short enough to be read. -/
def ofPrinted : List Char → Except ParseError Host
  | '[' :: rest => parseBracketed rest
  | name => ofAscii name

/-- A name in ASCII was printed for the host that it is. -/
theorem ofPrinted_of_isAsciiName {name : List Char} (named : IsAsciiName name) :
    ofPrinted name = ofAscii name := by
  unfold ofPrinted
  split
  · exact absurd List.mem_cons_self (not_mem_of_isForbidden named rfl)
  · rfl

/-- A printed host in normal form is known from its characters. -/
theorem ofPrinted_chars {host : Host} (normal : host.IsNormal) :
    ofPrinted host.chars = .ok host := by
  cases host with
  | domain name =>
    obtain ⟨filled, ascii, named⟩ := normal
    have some : name.toList.isEmpty = false := by simpa using filled
    rw [chars, ofPrinted_of_isAsciiName ascii, ofAscii, some, named]
    simp
  | ipv4 address =>
    have some : address.text.isEmpty = false := by simp [Ipv4.text]
    rw [chars, ofPrinted_of_isAsciiName (isAsciiName_ipv4 address).1, ofAscii, some,
      Ipv4.endsInNumber_text, Ipv4.parse?_text]
    simp
  | ipv6 address =>
    have turned : (address.text ++ [']']).reverse = ']' :: address.text.reverse := by simp
    change parseBracketed (address.text ++ [']']) = _
    rw [parseBracketed, turned]
    simp only [List.reverse_reverse, Ipv6.parse?_text]
  | verbatim text => exact normal.elim

/-- An address has no label that is too long. -/
theorem isShort_eq {host : Host} (normal : host.IsNormal) :
    host.isShort = Idna.isShort host.chars := by
  cases host with
  | domain name => rfl
  | ipv4 address => exact (isAsciiName_ipv4 address).2.symm
  | ipv6 address =>
    have dotless : '.' ∉ (ipv6 address).chars := by
      intro mem
      simp only [chars, List.cons_append, List.mem_cons, List.mem_append, List.not_mem_nil,
        or_false] at mem
      have digits : '.' ∉ printedDigits 16 := by decide
      rcases mem with bracket | inside | bracket
      · cases bracket
      · exact (Ipv6.mem_text inside).elim (by decide) digits
      · cases bracket
    rw [Idna.isShort, List.splitOn_eq_singleton dotless]
    rfl
  | verbatim text => exact normal.elim

/-- A printed host in normal form is read as it was, if it is short enough. -/
theorem parse_chars {host : Host} (normal : host.IsNormal) : parse host.chars = host.reread := by
  have known := ofPrinted_chars normal
  have named {name : List Char} (ascii : IsAsciiName name) (own : ofPrinted name = .ok host) :
      parse name = if Idna.isShort name then .ok host else .error .invalidDomainName := by
    rw [parse_of_isAsciiName ascii, ← own, ofPrinted_of_isAsciiName ascii]
  cases host with
  | domain name => exact named normal.2.1 known
  | ipv4 address =>
    obtain ⟨ascii, short⟩ := isAsciiName_ipv4 address
    rw [chars, named ascii known, short]
    rfl
  | ipv6 address => exact known
  | verbatim text => exact normal.elim

/-- Printing tells hosts in normal form apart. -/
theorem chars_injective {a b : Host} (normalA : a.IsNormal) (normalB : b.IsNormal)
    (same : a.chars = b.chars) : a = b := by
  have left := ofPrinted_chars normalA
  rw [same, ofPrinted_chars normalB] at left
  exact (Except.ok.inj left).symm

/-- Only the last label decides whether a name is an address. -/
theorem endsInNumber_append {front rest : List Char} (dotless : '.' ∉ front) (filled : rest ≠ []) :
    Ipv4.endsInNumber (front ++ '.' :: rest) = Ipv4.endsInNumber rest := by
  have pieces : (front ++ '.' :: rest).splitOn '.' = front :: rest.splitOn '.' :=
    List.splitOn_append_cons_self_of_not_mem dotless rest
  obtain ⟨first, others, cut⟩ := List.exists_cons_of_ne_nil (List.splitOn_ne_nil '.' rest)
  have last : (Ipv4.labels (front ++ '.' :: rest)).getLast? = (Ipv4.labels rest).getLast? := by
    simp only [Ipv4.labels, pieces, cut, List.getLast?_cons_cons, List.dropLast_cons_cons]
    split
    · next empty =>
      -- A name of one empty label is empty itself.
      cases others with
      | nil =>
        have none : first = [] := by simpa using empty
        have joined : ['.'].intercalate (rest.splitOn '.') = rest := List.intercalate_splitOn '.'
        rw [cut, none, List.intercalate_singleton] at joined
        exact absurd joined.symm filled
      | cons second others => rw [List.dropLast_cons_cons, List.getLast?_cons_cons]
    · rw [List.getLast?_cons_cons]
  rw [Ipv4.endsInNumber, Ipv4.endsInNumber, last]

/-- What is left of a domain name without its first label is a domain name. -/
theorem isNormal_of_append {name : String} (normal : (domain name).IsNormal)
    {front rest : List Char} (dotless : '.' ∉ front) (filled : rest ≠ [])
    (shape : name.toList = front ++ '.' :: rest) : (domain (String.ofList rest)).IsNormal := by
  obtain ⟨-, ascii, named⟩ := normal
  rw [shape] at ascii named
  rw [endsInNumber_append dotless filled] at named
  simp only [IsNormal, String.toList_ofList]
  exact ⟨filled, ascii.of_append dotless, named⟩

/-- Whether a character may stand in a host of a special scheme. -/
def isHostChar (c : Char) : Bool := isNameChar c || ['[', ']', ':'].contains c

/-- A printed host in normal form holds nothing but characters of hosts. -/
theorem isHostChar_of_mem {host : Host} (normal : host.IsNormal) {c : Char}
    (mem : c ∈ host.chars) : isHostChar c = true := by
  cases host with
  | domain name =>
    have named := normal.2.1.isNameChar mem
    simp [isHostChar, named]
  | ipv4 address =>
    have named := (isAsciiName_ipv4 address).1.isNameChar mem
    simp [isHostChar, named]
  | ipv6 address =>
    have digits : ∀ d ∈ printedDigits 16, isHostChar d = true :=
      List.all_iff_forall_prop.mp (by decide)
    simp only [chars, List.cons_append, List.mem_cons, List.mem_append, List.not_mem_nil,
      or_false] at mem
    rcases mem with rfl | inside | rfl
    · decide
    · rcases Ipv6.mem_text inside with rfl | digit
      · decide
      · exact digits c digit
    · decide
  | verbatim text => exact normal.elim

/-- A printed host in normal form is not empty. -/
theorem chars_ne_nil {host : Host} (normal : host.IsNormal) : host.chars ≠ [] := by
  cases host with
  | domain name => exact normal.1
  | ipv4 address => simp [chars, Ipv4.text]
  | ipv6 address => simp [chars]
  | verbatim text => exact normal.elim

/-- Printed hosts in normal form are in lower case. -/
theorem lower_chars {host : Host} (normal : host.IsNormal) : lower host.chars = host.chars := by
  have fixed (c : Char) (mem : c ∈ host.chars) : c.toLower = c := by
    have char := isHostChar_of_mem normal mem
    unfold isHostChar at char
    rcases Bool.or_eq_true_iff.mp char with named | mark
    · exact (isNameChar_iff.mp named).2.1
    · have marks : ∀ d ∈ ['[', ']', ':'], d.toLower = d := List.all_iff_forall_prop.mp (by decide)
      exact marks c (by simpa using mark)
  rw [lower]
  conv_rhs => rw [← List.map_id host.chars]
  exact List.map_congr_left fixed

end Host

/-- Outside square brackets a host goes on to the next colon. -/
theorem splitHost_append {text : List Char} (plain : ':' ∉ text ∧ '[' ∉ text) (rest : List Char) :
    splitHost false (text ++ rest)
      = (text ++ (splitHost false rest).1, (splitHost false rest).2) := by
  induction text with
  | nil => rfl
  | cons c text ih =>
    obtain ⟨other, later⟩ := not_or.mp (List.mem_cons.not.mp plain.1)
    obtain ⟨outside, after⟩ := not_or.mp (List.mem_cons.not.mp plain.2)
    have still : (c = '[' || (false && c ≠ ']') : Bool) = false := by simp [Ne.symm outside]
    rw [List.cons_append, splitHost, if_neg (by simp [Ne.symm other]), still, ih ⟨later, after⟩]
    rfl

/-- Inside square brackets a host goes on to the bracket that closes them. -/
theorem splitHost_append_of_inside {text : List Char} (inner : ']' ∉ text) (rest : List Char) :
    splitHost true (text ++ ']' :: rest)
      = (text ++ ']' :: (splitHost false rest).1, (splitHost false rest).2) := by
  induction text with
  | nil => simp [splitHost]
  | cons c text ih =>
    obtain ⟨other, later⟩ := not_or.mp (List.mem_cons.not.mp inner)
    have still : (c = '[' || (true && c ≠ ']') : Bool) = true := by simp [Ne.symm other]
    rw [List.cons_append, splitHost, if_neg (by simp), still, ih later]
    rfl

/-- What is put behind a printed host is cut from it again at its colon. -/
theorem splitHost_chars {host : Host} (normal : host.IsNormal) (rest : List Char) :
    splitHost false (host.chars ++ rest)
      = (host.chars ++ (splitHost false rest).1, (splitHost false rest).2) := by
  have named {name : List Char} (ascii : IsAsciiName name) : ':' ∉ name ∧ '[' ∉ name :=
    ⟨Host.not_mem_of_isForbidden ascii rfl, Host.not_mem_of_isForbidden ascii rfl⟩
  cases host with
  | domain name => exact splitHost_append (named normal.2.1) rest
  | ipv4 address => exact splitHost_append (named (Host.isAsciiName_ipv4 address).1) rest
  | ipv6 address =>
    have inner : ']' ∉ address.text := by
      intro mem
      have digits : ']' ∉ printedDigits 16 := by decide
      rcases Ipv6.mem_text mem with colon | digit
      · cases colon
      · exact digits digit
    have bracketed := splitHost_append_of_inside inner rest
    simp only [Host.chars, List.cons_append, List.append_assoc, List.nil_append]
    rw [splitHost, if_neg (by simp)]
    simp only [decide_true, Bool.true_or, bracketed]
  | verbatim text => exact normal.elim

end CrawlFrontier.Url
