import Proofreader.Token

/-!
# Splitting text into sentences and pieces

A sentence ends after `.`, `!` or `?` followed by a space, and at a line break followed by
another line break; the spaces after the end belong to the sentence, so the sentences of a
text concatenate to the text.

Within a sentence, the pieces are words, single delimiters and runs of spaces. Every
punctuation delimiter and every line break is a piece of its own, so a paragraph break stays
visible as two line-break pieces. Pieces that spell out a web address (`http`, `:`, `/`, `/`,
…) are joined back into one piece.
-/

namespace Proofreader

/-- Characters that end a word and stand as pieces of their own. -/
def delimiterChars : List Char :=
  ",.;()[]\x7b\x7d<>!?:/|\\\"'«»„”“`´‘’‛′…¿¡".toList

/-- Whether a character separates words: a space or a delimiter. -/
def isDelimiter (c : Char) : Bool := Unicode.isSpace c || delimiterChars.contains c

/-- A piece of text: its character span and its text. -/
structure Piece where
  start : Nat
  stop : Nat
  text : String
deriving Inhabited, Repr

/-- Whether a character may appear in the last piece of a web address. -/
def isAddressChar (c : Char) : Bool :=
  ('a' ≤ c && c ≤ 'z') || ('\x24' ≤ c && c ≤ '_') || c = '!'

namespace Piece

/-- One step of splitting: the pieces so far (reversed) and the open word or space run, with
its start and whether it is spaces. -/
def splitStep (state : List (Nat × Nat) × Option (Nat × Bool)) (ic : Nat × Char) :
    List (Nat × Nat) × Option (Nat × Bool) :=
  let (acc, current) := state
  let (i, c) := ic
  if Unicode.isSpace c && !Unicode.isNewline c then
    match current with
    | some (_, true) => (acc, current)
    | some (s, false) => ((s, i) :: acc, some (i, true))
    | none => (acc, some (i, true))
  else if isDelimiter c then
    let acc := match current with
      | some (s, _) => (s, i) :: acc
      | none => acc
    ((i, i + 1) :: acc, none)
  else
    match current with
    | some (_, false) => (acc, current)
    | some (s, true) => ((s, i) :: acc, some (i, false))
    | none => (acc, some (i, false))

/-- The spans of the words, delimiters and space runs of a text. -/
def spans (cs : List Char) : List (Nat × Nat) :=
  let (acc, current) := (cs.zipIdx.map fun (c, i) => (i, c)).foldl splitStep ([], none)
  let acc := match current with
    | some (s, _) => (s, cs.length) :: acc
    | none => acc
  acc.reverse

/-- The pieces of a text, each with its text. -/
def split (text : String) : List Piece :=
  let cs := text.toList
  (spans cs).map fun (a, b) => ⟨a, b, String.ofList ((cs.drop a).take (b - a))⟩

end Piece

/-! ## Character positions and byte offsets

Positions count characters. In the UTF-8 bytes of the text, the character at index `i` starts at
the byte offset `byteOffset cs i`, and the characters of a span are the bytes between the offsets
of its ends (`toByteArray_slice`). -/

/-- The UTF-8 byte offset of the character at index `i`: the bytes of the characters before it. -/
def byteOffset (cs : List Char) (i : Nat) : Nat := (String.ofList (cs.take i)).utf8ByteSize

/-- Past the last character is the end of the bytes. -/
theorem byteOffset_length (text : String) :
    byteOffset text.toList text.length = text.utf8ByteSize := by
  rw [byteOffset, ← String.length_toList, List.take_length, String.ofList_toList]

/-- A later character of the text starts at a later byte, each character taking at least one. -/
theorem byteOffset_lt {cs : List Char} {a b : Nat} (hab : a < b) (hb : b ≤ cs.length) :
    byteOffset cs a < byteOffset cs b := by
  have htake : cs.take b = cs.take a ++ (cs.drop a).take (b - a) := by
    rw [← List.take_add, Nat.add_sub_cancel' (Nat.le_of_lt hab)]
  obtain ⟨c, rest, hmid⟩ : ∃ c rest, (cs.drop a).take (b - a) = c :: rest := by
    apply List.exists_cons_of_ne_nil
    simp only [ne_eq, List.take_eq_nil_iff, List.drop_eq_nil_iff]
    omega
  have hc := c.utf8Size_pos
  rw [byteOffset, byteOffset, htake, hmid, String.ofList_append, String.utf8ByteSize_append,
    ← List.singleton_append, String.ofList_append, String.utf8ByteSize_append,
    ← String.singleton_eq_ofList, String.utf8ByteSize_singleton]
  omega

/-- The characters of a text from index `a` to index `b` are, in UTF-8, the bytes of the text
between the byte offsets of `a` and `b`. -/
theorem toByteArray_slice (text : String) {a b : Nat} (hab : a ≤ b) :
    (String.ofList ((text.toList.drop a).take (b - a))).toByteArray =
      text.toByteArray.extract (byteOffset text.toList a) (byteOffset text.toList b) := by
  -- the text is what comes before the slice, the slice, and what comes after it
  have htake : text.toList.take b = text.toList.take a ++ (text.toList.drop a).take (b - a) := by
    rw [← List.take_add, Nat.add_sub_cancel' hab]
  have hbytes : text.toByteArray = (String.ofList (text.toList.take a)).toByteArray ++
      ((String.ofList ((text.toList.drop a).take (b - a))).toByteArray ++
        (String.ofList (text.toList.drop b)).toByteArray) := by
    rw [← String.toByteArray_append, ← String.toByteArray_append, ← String.ofList_append,
      ← String.ofList_append, ← List.append_assoc, ← htake, List.take_append_drop,
      String.ofList_toList]
  have hslice := ByteArray.extract_append_size_add
    (a := (String.ofList (text.toList.take a)).toByteArray)
    (b := (String.ofList ((text.toList.drop a).take (b - a))).toByteArray ++
      (String.ofList (text.toList.drop b)).toByteArray)
    (i := 0) (j := (String.ofList ((text.toList.drop a).take (b - a))).toByteArray.size)
  rw [Nat.add_zero, ByteArray.extract_append_eq_left rfl] at hslice
  rw [byteOffset, byteOffset, htake, String.ofList_append, String.utf8ByteSize_append, hbytes,
    ← String.size_toByteArray, ← String.size_toByteArray, hslice]

namespace Piece

/-- Whether a web address starts at this piece: a protocol followed by `:`, `/`, `/`. -/
def startsAddress (protocols : List String) (p : Piece) (rest : List Piece) : Bool :=
  protocols.contains p.text &&
    match rest with
    | a :: b :: c :: _ => a.text = ":" && b.text = "/" && c.text = "/"
    | _ => false

/-- Whether a web address ends before this piece: at spaces, a closing parenthesis, sentence
punctuation followed by spaces, or a last piece with characters no address has. -/
def endsAddress (p : Piece) (rest : List Piece) : Bool :=
  if isBlankText p.text || p.text = ")" then true
  else
    match rest with
    | q :: _ => isBlankText q.text && [".", ",", ";", ":", "!", "?"].contains p.text
    | [] => p.text.isEmpty || !p.text.all isAddressChar

/-- Joins the pieces of web addresses. -/
def joinAddresses (protocols : List String) : Option Piece → List Piece → List Piece
  | none, [] => []
  | some cur, [] => [cur]
  | none, p :: rest =>
    if startsAddress protocols p rest then joinAddresses protocols (some p) rest
    else p :: joinAddresses protocols none rest
  | some cur, p :: rest =>
    if endsAddress p rest then cur :: p :: joinAddresses protocols none rest
    else joinAddresses protocols (some ⟨cur.start, p.stop, cur.text ++ p.text⟩) rest

end Piece

/-- The pieces of a text with web addresses joined. -/
def textPieces (protocols : List String) (text : String) : List Piece :=
  Piece.joinAddresses protocols none (Piece.split text)

/-- The words and punctuation of a text, spaces left out. -/
def textWords (protocols : List String) (text : String) : List String :=
  ((textPieces protocols text).filter fun p => !isBlankText p.text).map Piece.text

/-- Character spans of the sentences of a text. `skipping` holds while the spaces after a
sentence end are being taken into the sentence. -/
def sentenceSpansFrom (pos start : Nat) (skipping : Bool) :
    List Char → List (Nat × Nat) → List (Nat × Nat)
  | [], acc =>
    (if skipping || start < pos then (start, pos) :: acc else acc).reverse
  | c :: rest, acc =>
    if skipping && Unicode.isSpace c then sentenceSpansFrom (pos + 1) start true rest acc
    else
      let (start, acc) := if skipping then (pos, (start, pos) :: acc) else (start, acc)
      let next := rest.head?
      let ends := ((c = '.' || c = '!' || c = '?') && next.any Unicode.isSpace) ||
        (Unicode.isNewline c && next.any Unicode.isNewline)
      sentenceSpansFrom (pos + 1) start ends rest acc

/-- The sentences of a text: each with its character offset and its text. -/
def textSentences (text : String) : List (Nat × String) :=
  let cs := text.toList
  (sentenceSpansFrom 0 0 false cs []).map fun (a, b) => (a, String.ofList ((cs.drop a).take (b - a)))

end Proofreader
