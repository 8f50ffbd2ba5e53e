import Proofreader.Text.Blank
import Proofreader.Text.Property

/-!
# Readings and tokens

A token is a piece of a sentence: a word, a punctuation mark, a run of blanks, or the empty
token that opens every sentence. It carries the readings the dictionary gives for it: a lemma
and a part-of-speech tag each, the tag left out for pseudo-readings. Three tags are reserved:
`SENT_START` on the opening token, `SENT_END` on the last non-blank token and `PARA_END` on the
line break that ends a paragraph. Readings with them are *sentinels*: they mark boundaries and
say nothing about the word.

Character positions are 64-bit words: counting past the largest one wraps around to 0.
-/

namespace Proofreader

/-- Tag of the reading of the empty token that opens a sentence. -/
def sentStartTag : String := "SENT_START"

/-- Tag added to the last non-blank token of a sentence. -/
def sentEndTag : String := "SENT_END"

/-- Tag added to the line break that ends a paragraph. -/
def paraEndTag : String := "PARA_END"

/-- A lemma with its part-of-speech tag, if any. -/
structure Reading where
  lemmaForm : String
  tag : Option String
deriving DecidableEq, Repr, Inhabited, Hashable

namespace Reading

/-- Whether the reading marks a sentence or paragraph boundary. -/
def isSentinel (r : Reading) : Bool :=
  r.tag = some sentStartTag || r.tag = some sentEndTag || r.tag = some paraEndTag

end Reading

/-- A token of a sentence, with its place in the text (in characters) and its readings. -/
structure Token where
  text : String
  start : Nat
  stop : Nat
  readings : List Reading
  /-- Non-empty and made only of spaces. -/
  isBlank : Bool
  spaceBefore : Bool
  sentStart : Bool
  sentEnd : Bool
  paraEnd : Bool
deriving DecidableEq, Repr, Inhabited, Hashable

/-- Whether a text is non-empty and made only of spaces. -/
def isBlankText (s : String) : Bool := !s.isEmpty && s.toList.all Unicode.isSpace

namespace Token

/-- The position `n` characters after position `p`, as a 64-bit word. -/
def advance (p n : Nat) : Nat := (UInt64.ofNat p + UInt64.ofNat n).toNat

/-- Advancing is addition modulo `2 ^ 64`, written out so that the statement reads the same
whatever instances of powers are in scope. -/
theorem advance_eq (p n : Nat) : advance p n = (p + n) % 18446744073709551616 := by
  simp only [advance, UInt64.toNat_add]
  exact (Nat.add_mod p n _).symm

/-- A token of `text` starting at character `start`; the end and blankness follow from the
text. -/
def make (text : String) (start : Nat) (readings : List Reading) : Token :=
  { text, start, stop := advance start text.length, readings, isBlank := isBlankText text,
    spaceBefore := false, sentStart := false, sentEnd := false, paraEnd := false }

/-- The empty token that opens a sentence at `offset`. -/
def opening (offset : Nat) : Token :=
  { make "" offset [⟨"", some sentStartTag⟩] with sentStart := true }

/-- Sets whether a space precedes the token. -/
def withSpaceBefore (t : Token) (b : Bool) : Token := { t with spaceBefore := b }

/-- Marks the token as the end of its sentence, adding the `SENT_END` reading once. -/
def markSentenceEnd (t : Token) : Token :=
  if t.sentEnd then t
  else { t with sentEnd := true, readings := t.readings ++ [⟨t.text, some sentEndTag⟩] }

/-- Marks the token as the end of a paragraph, adding the `PARA_END` reading once. -/
def markParagraphEnd (t : Token) : Token :=
  if t.paraEnd then t
  else { t with paraEnd := true, readings := t.readings ++ [⟨t.text, some paraEndTag⟩] }

@[simp] theorem markSentenceEnd_sentEnd (t : Token) : t.markSentenceEnd.sentEnd = true := by
  unfold markSentenceEnd
  split <;> simp_all

@[simp] theorem markSentenceEnd_paraEnd (t : Token) : t.markSentenceEnd.paraEnd = t.paraEnd := by
  unfold markSentenceEnd
  split <;> rfl

@[simp] theorem markParagraphEnd_paraEnd (t : Token) : t.markParagraphEnd.paraEnd = true := by
  unfold markParagraphEnd
  split <;> simp_all

@[simp] theorem markParagraphEnd_sentEnd (t : Token) :
    t.markParagraphEnd.sentEnd = t.sentEnd := by
  unfold markParagraphEnd
  split <;> rfl

/-- The same token with other readings. -/
def withReadings (t : Token) (rs : List Reading) : Token := { t with readings := rs }

/-- The lemmas of all readings. -/
def lemmas (t : Token) : List String := t.readings.map Reading.lemmaForm

/-- The tags of the tagged readings. -/
def tags (t : Token) : List String := t.readings.filterMap Reading.tag

/-- Whether some reading carries the tag. -/
def hasTag (t : Token) (tag : String) : Bool := t.tags.contains tag

/-- Whether the dictionary knows nothing of the token: all its readings are sentinels. -/
def isUnknown (t : Token) : Bool := t.readings.all Reading.isSentinel

/-- Whether the token is a sentence or paragraph boundary. -/
def isBoundary (t : Token) : Bool := t.sentStart || t.sentEnd || t.paraEnd

/-- Whether the token belongs to the filtered view of its sentence: it is not blank, or it is a
boundary. -/
def isVisible (t : Token) : Bool := !t.isBlank || t.isBoundary

/-- Whether the token is a word: it holds a letter or a digit. -/
def isWord (t : Token) : Bool := t.text.toList.any Unicode.isAlphanumeric

end Token

end Proofreader
