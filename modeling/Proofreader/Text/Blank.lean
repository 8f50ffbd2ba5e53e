import Proofreader.Text.Table

/-!
# Blank characters

Two notions of blank are in use. `Unicode.isWhiteSpace` is the White_Space property of the
Unicode character database: it decides trimming, splitting on blanks and the regex class `\s`.
`Unicode.isSpace` adds the invisible formatting characters (zero-width spaces, direction marks,
fillers and the byte-order mark) that a tokenizer must also treat as space between words.
-/

namespace Proofreader

namespace Unicode

/-- The White_Space ranges, written out so that membership can be decided. -/
def whiteSpaceSet : RangeSet :=
  ⟨#[⟨0x9, 0xd⟩, ⟨0x20, 0x20⟩, ⟨0x85, 0x85⟩, ⟨0xa0, 0xa0⟩, ⟨0x1680, 0x1680⟩, ⟨0x2000, 0x200a⟩,
    ⟨0x2028, 0x2029⟩, ⟨0x202f, 0x202f⟩, ⟨0x205f, 0x205f⟩, ⟨0x3000, 0x3000⟩]⟩

/-- Characters with the White_Space property. -/
def isWhiteSpace (c : Char) : Bool :=
  whiteSpaceSet.contains c

/-- Invisible formatting characters that separate words like a space, written out so that
membership can be decided. -/
def invisibleSpaceSet : RangeSet :=
  ⟨#[⟨0x115f, 0x115f⟩, ⟨0x1160, 0x1160⟩, ⟨0x200b, 0x200f⟩, ⟨0x202a, 0x202e⟩, ⟨0x2060, 0x2063⟩,
    ⟨0x206a, 0x206f⟩, ⟨0x3164, 0x3164⟩, ⟨0xfeff, 0xfeff⟩, ⟨0xffa0, 0xffa0⟩, ⟨0xfff9, 0xfffb⟩]⟩

/-- Space between words: White_Space or an invisible formatting character. -/
def isSpace (c : Char) : Bool :=
  isWhiteSpace c || invisibleSpaceSet.contains c

/-- Line breaks that end a line of text. -/
def isNewline (c : Char) : Bool :=
  c = '\n' || c = '\u2028' || c = '\u2029'

end Unicode

/-- Drops White_Space from both ends. -/
def trimBlank (s : String) : String :=
  String.ofList ((s.toList.dropWhile Unicode.isWhiteSpace).reverse.dropWhile Unicode.isWhiteSpace).reverse

/-- The non-empty runs of non-blank characters, in order. -/
def blankWords (s : String) : List String :=
  ((s.toList.splitBy fun a b => Unicode.isWhiteSpace a == Unicode.isWhiteSpace b).filter
    fun run => !run.all Unicode.isWhiteSpace).map String.ofList

end Proofreader
