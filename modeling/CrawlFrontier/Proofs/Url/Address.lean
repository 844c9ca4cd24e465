import CrawlFrontier.Proofs.Text.Numeral
import CrawlFrontier.Proofs.Text.Parts
import CrawlFrontier.Url.Ipv6

/-!
# Printed addresses are read back

Main statements: an address of either kind that was printed is read as it was. For the longer kind
this rests on the run of zeros that is left out: the reader puts in as many as are missing.
-/

namespace CrawlFrontier.Url

open CrawlFrontier.Text

namespace Ipv4

/-- The numbers of an address as they are printed. -/
def printed (address : Ipv4) : List (List Char) :=
  [decimal address.a.toNat, decimal address.b.toNat, decimal address.c.toNat,
    decimal address.d.toNat]

/-- An address is printed as its numbers with full stops between them. -/
theorem text_eq (address : Ipv4) : address.text = ['.'].intercalate address.printed := by
  simp [text, printed, List.intercalate]

/-- The numbers of an address are printed by digits. -/
theorem mem_printed {address : Ipv4} {label : List Char} (mem : label ∈ address.printed) :
    label ≠ [] ∧ ∀ c ∈ label, c ∈ printedDigits 10 := by
  have decimals : ∃ n, label = decimal n := by
    simp only [printed, List.mem_cons, List.not_mem_nil, or_false] at mem
    rcases mem with rfl | rfl | rfl | rfl <;> exact ⟨_, rfl⟩
  obtain ⟨n, rfl⟩ := decimals
  exact ⟨Nat.toDigits_ne_nil, fun c inside => mem_toDigits (by decide) inside⟩

/-- A printed address consists of full stops and digits. -/
theorem mem_text {address : Ipv4} {c : Char} (mem : c ∈ address.text) :
    c = '.' ∨ c ∈ printedDigits 10 := by
  rw [text_eq] at mem
  refine (mem_intercalate mem).imp_right fun ⟨label, inside, present⟩ => ?_
  exact (mem_printed inside).2 c present

/-- The labels of a printed address are its numbers. -/
theorem labels_text (address : Ipv4) : labels address.text = address.printed := by
  have pieces : address.text.splitOn '.' = address.printed := by
    rw [text_eq]
    refine List.splitOn_intercalate '.' ?_ (by simp [printed])
    intro label mem dot
    have none : '.' ∉ printedDigits 10 := by decide
    exact none ((mem_printed mem).2 '.' dot)
  have last : address.printed.getLast? ≠ some [] := by
    simp [printed, decimal]
  rw [labels, pieces]
  exact if_neg last

/-- A printed byte is read back. -/
theorem readNumber?_decimal {n : Nat} (bound : n < 256) : readNumber? (decimal n) = some n := by
  have all : ∀ m ∈ List.range 256, readNumber? (decimal m) = some m := by decide +kernel
  exact all n (List.mem_range.mpr bound)

/-- A printed address ends in a number. -/
theorem endsInNumber_text (address : Ipv4) : endsInNumber address.text = true := by
  have digits : (decimal address.d.toNat).all Char.isDigit = true := by
    refine List.all_eq_true.mpr fun c mem => ?_
    exact Nat.isDigit_of_mem_toDigits (by decide) (by decide) mem
  have last : address.printed.getLast? = some (decimal address.d.toNat) := rfl
  have filled : decimal address.d.toNat ≠ [] := Nat.toDigits_ne_nil
  rw [endsInNumber, labels_text, last]
  split
  · next absent => cases absent
  · next empty => exact absurd (Option.some.inj empty) filled
  · next label same =>
    obtain rfl := Option.some.inj same
    rw [digits]
    rfl

/-- Four bytes have the value in which each weighs as much as all values of those behind it. -/
theorem combine?_bytes {a b c d : Nat} (boundA : a < 256) (boundB : b < 256) (boundC : c < 256)
    (boundD : d < 256) : combine? [a, b, c, d] = some (((a * 256 + b) * 256 + c) * 256 + d) := by
  have weight : Nat.pow 256 (4 - [c, b, a].length) = 256 := rfl
  have bytes : [c, b, a].all (· < 256) = true := by simp [boundA, boundB, boundC]
  have reversed : [a, b, c, d].reverse = d :: [c, b, a] := rfl
  rw [combine?, reversed]
  simp only [weight, bytes]
  rw [if_pos ⟨by simp, boundD, trivial⟩]
  simp

/-- The bytes of a value are those it was made of. -/
theorem ofNat_bytes (a b c d : UInt8) :
    ofNat (((a.toNat * 256 + b.toNat) * 256 + c.toNat) * 256 + d.toNat) = ⟨a, b, c, d⟩ := by
  have boundA : a.toNat < 256 := a.toNat_lt
  have boundB : b.toNat < 256 := b.toNat_lt
  have boundC : c.toNat < 256 := c.toNat_lt
  have boundD : d.toNat < 256 := d.toNat_lt
  rw [ofNat]
  congr 1 <;> refine UInt8.toNat_inj.mp ?_ <;> rw [UInt8.toNat_ofNat'] <;> omega

/-- A printed address is read back. -/
theorem parse?_text (address : Ipv4) : parse? address.text = some address := by
  have bound (n : UInt8) : n.toNat < 256 := n.toNat_lt
  have read : address.printed.mapM readNumber?
      = some [address.a.toNat, address.b.toNat, address.c.toNat, address.d.toNat] := by
    refine mapM_eq_some_iff.mpr ?_
    simp only [printed, List.map_cons, List.map_nil, readNumber?_decimal (bound _)]
  simp only [parse?, labels_text, read, Option.bind_eq_bind, Option.bind_some,
    combine?_bytes (bound _) (bound _) (bound _) (bound _), ofNat_bytes]

end Ipv4

namespace Ipv6

/-- A piece is printed by one to four digits. -/
theorem pieceText_spec (piece : UInt16) :
    pieceText piece ≠ [] ∧ (pieceText piece).length ≤ 4 ∧
      ∀ c ∈ pieceText piece, c ∈ printedDigits 16 := by
  have bound : piece.toNat < 16 ^ 4 := piece.toNat_lt
  exact ⟨Nat.toDigits_ne_nil, (Nat.length_toDigits_le_iff (by decide) (by decide)).mpr bound,
    fun c mem => mem_toDigits (by decide) mem⟩

/-- A printed piece is read back. -/
theorem readPiece?_pieceText (piece : UInt16) : readPiece? (pieceText piece) = some piece := by
  obtain ⟨filled, short, -⟩ := pieceText_spec piece
  have fits : ((pieceText piece).isEmpty || decide (4 < (pieceText piece).length)) = false := by
    simp [filled, short]
  have read : numeral? 16 (pieceText piece) = some piece.toNat :=
    numeral?_toDigits (by decide) (by decide) piece.toNat
  rw [readPiece?, fits, read]
  simp

/-- Printed pieces are read back. -/
theorem readPieces?_map_pieceText (atEnd : Bool) (pieces : List UInt16) :
    readPieces? atEnd (pieces.map pieceText) = some pieces := by
  induction pieces with
  | nil => rfl
  | cons piece pieces ih =>
    have read := readPiece?_pieceText piece
    cases pieces with
    | nil =>
      have dotless : (pieceText piece).contains '.' = false := by
        have none : '.' ∉ printedDigits 16 := by decide
        have absent : '.' ∉ pieceText piece := fun mem => none ((pieceText_spec piece).2.2 '.' mem)
        simpa using absent
      rw [List.map_singleton, readPieces?, dotless, read, Bool.and_false]
      rfl
    | cons next pieces =>
      rw [List.map_cons] at ih
      simp only [List.map_cons, readPieces?, read, ih, Option.bind_eq_bind, Option.bind_some]

/-- Pieces that were printed with colons between them are cut apart again. -/
theorem splitOn_joinPieces {pieces : List UInt16} (filled : pieces ≠ []) :
    (joinPieces pieces).splitOn ':' = pieces.map pieceText := by
  refine List.splitOn_intercalate ':' ?_ (by simpa using filled)
  intro text mem colon
  obtain ⟨piece, -, rfl⟩ := List.mem_map.mp mem
  have none : ':' ∉ printedDigits 16 := by decide
  exact none ((pieceText_spec piece).2.2 ':' colon)

/-- Printed pieces consist of colons and digits. -/
theorem mem_joinPieces {pieces : List UInt16} {c : Char} (mem : c ∈ joinPieces pieces) :
    c = ':' ∨ c ∈ printedDigits 16 := by
  refine (mem_intercalate mem).imp_right fun ⟨text, inside, present⟩ => ?_
  obtain ⟨piece, -, rfl⟩ := List.mem_map.mp inside
  exact (pieceText_spec piece).2.2 c present

/-- A printed address consists of colons and digits. -/
theorem mem_text {address : Ipv6} {c : Char} (mem : c ∈ address.text) :
    c = ':' ∨ c ∈ printedDigits 16 := by
  unfold text at mem
  simp only at mem
  split at mem
  · exact mem_joinPieces mem
  · simp only [List.mem_append, List.mem_cons] at mem
    rcases mem with front | rfl | rfl | back
    · exact mem_joinPieces front
    · exact .inl rfl
    · exact .inl rfl
    · exact mem_joinPieces back

/-- A printed side of the gap is read back. -/
theorem readSide?_joinPieces (atEnd : Bool) (pieces : List UInt16) :
    readSide? atEnd (joinPieces pieces) = some pieces := by
  cases pieces with
  | nil => rfl
  | cons piece pieces =>
    have some : piece :: pieces ≠ [] := List.cons_ne_nil piece pieces
    have filled : (joinPieces (piece :: pieces)).isEmpty = false := by
      refine Bool.eq_false_iff.mpr fun empty => ?_
      have cut := splitOn_joinPieces some
      rw [List.isEmpty_iff.mp empty, List.splitOn_nil, List.map_cons] at cut
      exact (pieceText_spec piece).1 (List.cons.inj cut).1.symm
    rw [readSide?, filled, splitOn_joinPieces some]
    exact readPieces?_map_pieceText atEnd (piece :: pieces)

/-- Where no two colons stand first, a gap is looked for behind the first character. -/
theorem splitGap?_cons {c : Char} {rest : List Char} (other : c ≠ ':' ∨ rest.head? ≠ some ':') :
    splitGap? (c :: rest) = (splitGap? rest).map fun (front, back) => (c :: front, back) := by
  rw [splitGap?]
  rintro tail rfl rfl
  simp at other

/-- A text without colons holds no part of a gap. -/
theorem splitGap?_append {text : List Char} (plain : ':' ∉ text) (rest : List Char) :
    splitGap? (text ++ rest) = (splitGap? rest).map fun (front, back) => (text ++ front, back) := by
  induction text with
  | nil => simp
  | cons c text ih =>
    obtain ⟨other, later⟩ := not_or.mp (List.mem_cons.not.mp plain)
    rw [List.cons_append, splitGap?_cons (.inl (Ne.symm other)), ih later, Option.map_map]
    rfl

/-- Printed pieces hold no gap and none begins at their end. -/
theorem splitGap?_joinPieces (pieces : List UInt16) (rest : List Char) :
    splitGap? (joinPieces pieces ++ rest)
      = (splitGap? rest).map fun (front, back) => (joinPieces pieces ++ front, back) := by
  have plain (piece : UInt16) : ':' ∉ pieceText piece := by
    have none : ':' ∉ printedDigits 16 := by decide
    exact fun mem => none ((pieceText_spec piece).2.2 ':' mem)
  induction pieces with
  | nil => simp [joinPieces]
  | cons piece pieces ih =>
    cases pieces with
    | nil =>
      have only : joinPieces [piece] = pieceText piece := by simp [joinPieces]
      rw [only]
      exact splitGap?_append (plain piece) rest
    | cons next pieces =>
      have parts : joinPieces (piece :: next :: pieces)
          = pieceText piece ++ ':' :: joinPieces (next :: pieces) := by
        simp [joinPieces, List.intercalate_cons_cons]
      have digit : (joinPieces (next :: pieces) ++ rest).head? ≠ some ':' := by
        obtain ⟨c, digits, shape⟩ := List.exists_cons_of_ne_nil (pieceText_spec next).1
        have begins : ∃ tail, joinPieces (next :: pieces) = c :: tail := by
          cases pieces <;> simp [joinPieces, List.intercalate_cons_cons, shape]
        obtain ⟨tail, starts⟩ := begins
        have colon : c ≠ ':' := by
          rintro rfl
          exact plain next (by rw [shape]; exact List.mem_cons_self)
        rw [starts]
        simpa using colon
      rw [parts, List.append_assoc, splitGap?_append (plain piece), List.cons_append,
        splitGap?_cons (.inr digit), ih, Option.map_map, Option.map_map]
      congr 1
      funext ⟨front, back⟩
      simp

/-- The longest run of zeros stands where it is said to. -/
theorem longestZeros_spec (pieces : List UInt16) :
    ∃ front back, pieces = front ++ List.replicate (longestZeros pieces).2 0 ++ back ∧
      front.length = (longestZeros pieces).1 := by
  induction pieces with
  | nil => exact ⟨[], [], rfl, rfl⟩
  | cons piece pieces ih =>
    obtain ⟨front, back, whole, place⟩ := ih
    simp only [longestZeros]
    split
    · next longer =>
      have zeros : (piece :: pieces).takeWhile (· == 0)
          = List.replicate (zeroRun (piece :: pieces)) 0 := by
        refine List.eq_replicate_iff.mpr ⟨rfl, fun zero mem => ?_⟩
        simpa using List.all_eq_true.mp List.all_takeWhile zero mem
      refine ⟨[], (piece :: pieces).dropWhile (· == 0), ?_, rfl⟩
      rw [List.nil_append, ← zeros, List.takeWhile_append_dropWhile]
    · exact ⟨piece :: front, back, by rw [List.cons_append, List.cons_append, ← whole],
        by rw [List.length_cons, place]⟩

/-- A printed address is read back. -/
theorem parse?_text (address : Ipv6) : parse? address.text = some address := by
  obtain ⟨pieces, eight⟩ := address
  obtain ⟨front, back, whole, place⟩ := longestZeros_spec pieces
  unfold text
  simp only
  generalize longestZeros pieces = run at whole place ⊢
  split
  · next short =>
    have noGap := splitGap?_joinPieces pieces []
    rw [List.append_nil, splitGap?, Option.map_none] at noGap
    have filled : pieces ≠ [] := by
      rintro rfl
      cases eight
    have read := readPieces?_map_pieceText true pieces
    simp only [parse?, noGap, splitOn_joinPieces filled, read, Option.bind_eq_bind,
      Option.bind_some]
    exact dif_pos eight
  · next long =>
    have left : pieces.take run.1 = front := by
      conv_lhs => rw [whole, List.append_assoc, ← place]
      exact List.take_left
    have right : pieces.drop (run.1 + run.2) = back := by
      have behind : (front ++ List.replicate run.2 0).length
          = run.1 + run.2 := by
        rw [List.length_append, List.length_replicate, place]
      conv_lhs => rw [whole, ← behind]
      exact List.drop_left
    have count : front.length + run.2 + back.length = 8 := by
      have same := congrArg List.length whole
      rw [List.length_append, List.length_append, List.length_replicate, eight] at same
      exact same.symm
    have gap := splitGap?_joinPieces front (':' :: ':' :: joinPieces back)
    rw [splitGap?, Option.map_some] at gap
    have less : front.length + back.length < 8 := by omega
    have missing : 8 - front.length - back.length = run.2 := by omega
    rw [left, right]
    simp only [parse?, gap, List.append_nil, readSide?_joinPieces, Option.bind_eq_bind,
      Option.bind_some, missing, ← whole]
    rw [if_pos less]
    exact dif_pos eight

end Ipv6

end CrawlFrontier.Url
