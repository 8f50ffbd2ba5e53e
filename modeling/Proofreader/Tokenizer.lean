import Proofreader.Tokenizer.Split
import Proofreader.Tagger
import Proofreader.Sentence
import Proofreader.Rule.Disambiguation

/-!
# Tokenizer

The tokenizer turns text into analyzed sentences. It splits the text into sentences and each
sentence into pieces, looks every non-blank piece up in the word list (trying the lowercase
form when the piece itself is unknown and the option allows it), and marks the boundaries:
the opening empty token, the last non-blank token as sentence end, and the last line break of a
run of at least two as paragraph end, when only blanks follow the run or a non-blank token
does. Finally the disambiguation rules adjust the readings.
-/

namespace Proofreader

/-- Options of a tokenizer. -/
structure TokenizerOptions where
  /-- Look up the lowercase form of an unknown word. -/
  lowercaseFallback : Bool := true
  /-- Words that start a web address when followed by `://`. -/
  protocols : List String := ["http", "https", "ftp"]
deriving Inhabited, Repr

/-- A word list, disambiguation rules and options. -/
structure Tokenizer where
  tagger : Tagger := {}
  disambiguator : Disambiguator := {}
  options : TokenizerOptions := {}
deriving Inhabited

namespace Tokenizer

/-- The readings of a word, with the lowercase fallback. -/
def readings (t : Tokenizer) (word : String) : List Reading :=
  let found := t.tagger.lookup word
  if found.isEmpty && t.options.lowercaseFallback then
    let lower := Unicode.toLower word
    if lower != word then t.tagger.lookup lower else found
  else found

/-- The forms of a lemma in a tag, from the word list. -/
def inflect (t : Tokenizer) : Inflector := t.tagger.inflect

/-- Whether a token holds a line break. -/
def hasNewline (tok : Token) : Bool := tok.text.toList.any Unicode.isNewline

/-- Whether a token holds a line break, read off the characters of its text. -/
theorem hasNewline_eq (tok : Token) : hasNewline tok = tok.text.toList.any Unicode.isNewline := rfl

/-- Whether the run of line breaks that reaches `i` ends there: the next token that is not a
plain blank is a non-blank token, or there is none. -/
def runEndsAfter (tokens : Array Token) (i : Nat) : Bool :=
  match (tokens.toList.drop (i + 1)).find? fun x => !x.isBlank || hasNewline x with
  | some x => !hasNewline x
  | none => true

/-- Marks paragraph ends from index `i` on; `newlines` are the line-break tokens of the
current run. -/
def markParagraphs (fuel i : Nat) (newlines : List Nat) (tokens : Array Token) : Array Token :=
  match fuel with
  | 0 => tokens
  | f + 1 =>
    match tokens[i]? with
    | none => tokens
    | some tok =>
      if hasNewline tok then
        let newlines := newlines ++ [i]
        if newlines.length ≥ 2 && runEndsAfter tokens i then
          markParagraphs f (i + 1) [] (tokens.set! i tok.markParagraphEnd)
        else markParagraphs f (i + 1) newlines tokens
      else if tok.isBlank then markParagraphs f (i + 1) newlines tokens
      else markParagraphs f (i + 1) [] tokens

/-- Marks the last non-blank token (other than the opening one) as sentence end. -/
def markSentenceEnd (tokens : Array Token) : Array Token :=
  let idx := (List.range tokens.size).reverse.find? fun i =>
    match tokens[i]? with
    | some t => !t.isBlank && !t.sentStart
    | none => false
  match idx with
  | some i => match tokens[i]? with
    | some t => tokens.set! i t.markSentenceEnd
    | none => tokens
  | none => tokens

/-- Tokens of a sentence text that starts at character `offset`, before disambiguation. -/
def tokensOf (t : Tokenizer) (text : String) (offset : Nat) : Array Token :=
  let pieces := textPieces t.options.protocols text
  let step (acc : Array Token × Nat × Bool) (p : Piece) : Array Token × Nat × Bool :=
    let (toks, pos, spaceBefore) := acc
    let rs := if isBlankText p.text then [] else t.readings p.text
    let tok := (Token.make p.text pos rs).withSpaceBefore spaceBefore
    (toks.push tok, Token.advance pos p.text.length, tok.isBlank)
  let (toks, _, _) := pieces.foldl step (#[Token.opening offset], offset, false)
  let toks := markSentenceEnd toks
  markParagraphs toks.size 0 [] toks

/-- Analyzes one sentence starting at character `offset`. -/
def analyzeSentence (t : Tokenizer) (text : String) (offset : Nat) : Sentence :=
  t.disambiguator.apply ⟨t.tokensOf text offset⟩

/-- The sentences of a text with their offsets. -/
def sentences (_t : Tokenizer) (text : String) : List (Nat × String) := textSentences text

/-- Splits a text into sentences and analyzes each. -/
def analyze (t : Tokenizer) (text : String) : List Sentence :=
  (textSentences text).map fun (offset, s) => t.analyzeSentence s offset

/-- The words and punctuation of a text. -/
def words (t : Tokenizer) (text : String) : List String := textWords t.options.protocols text

end Tokenizer

end Proofreader
