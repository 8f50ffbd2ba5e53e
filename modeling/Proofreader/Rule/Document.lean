import Proofreader.Rule.Id
import Proofreader.Suggestion
import Proofreader.Sentence

/-!
# Rules over a whole document

Document rules look at more than one sentence. A word-coherency rule knows pairs of accepted
spellings: once a document has used one spelling of a pair, the other is reported. A
repeated-beginning rule reports the third of three sentences in a row that begin with the same
word (the second already for words listed as adverbs), except for allowed words.

The rules are fixed; what they remember about earlier sentences lives in a `DocumentCheck`, one
state per rule, so two checks never see each other's state.
-/

namespace Proofreader

/-- A rule over the sentences of a document. -/
inductive DocumentRule where
  | wordCoherency (id : RuleId) (pairs : List (String × String))
  | repeatedBeginning (id : RuleId) (allowed adverbs : List String)
deriving Inhabited

namespace DocumentRule

/-- The rule's identifier. -/
def id : DocumentRule → RuleId
  | wordCoherency id _ => id
  | repeatedBeginning id _ _ => id

end DocumentRule

/-- What one document rule remembers. -/
inductive DocumentState where
  /-- Lowercase spellings that must not appear any more, with the spelling used first. -/
  | coherency (seen : List (String × String))
  /-- The lowercase first word of the previous sentence and how many sentences began with it. -/
  | beginning (previous : Option (String × Nat))
deriving Inhabited

/-- The state of one check over a document: a state per rule index. -/
structure DocumentCheck where
  states : List (Nat × DocumentState) := []
deriving Inhabited

/-- Tokens that are neither blank nor the opening token. -/
def contentTokens (s : Sentence) : List Token :=
  s.tokens.toList.filter fun t => !t.isBlank && !t.sentStart

/-- A content token is a token of the sentence. -/
theorem mem_of_mem_contentTokens {s : Sentence} {tok : Token} (h : tok ∈ contentTokens s) :
    tok ∈ s.tokens.toList :=
  (List.mem_filter.1 h).1

/-- Whether a byte index falls between two characters of a UTF-8 text. -/
def isCharBoundary (bytes : ByteArray) (i : Nat) : Bool :=
  i = 0 || i = bytes.size || (match bytes[i]? with
    | some b => b < 0x80 || b ≥ 0xC0
    | none => false)

/-- The first byte index where `pat` occurs in `bytes`. -/
def findBytes (bytes pat : ByteArray) : Option Nat :=
  (List.range (bytes.size + 1 - pat.size)).find? fun i =>
    (List.range pat.size).all fun j => bytes[i + j]? = pat[j]?

/-- Replaces the spelling `used` inside `surface` (compared in lowercase) by `wanted`, so that
inflected forms keep their endings; gives `wanted` itself when that is not possible. -/
def respell (surface used wanted : String) : String :=
  let lower := (Unicode.toLower surface).toUTF8
  let pat := (Unicode.toLower used).toUTF8
  let s := surface.toUTF8
  match findBytes lower pat with
  | some start =>
    if lower.size = s.size && isCharBoundary s start && isCharBoundary s (start + pat.size) then
      let bytes := s.extract 0 start ++ wanted.toUTF8 ++ s.extract (start + pat.size) s.size
      (String.fromUTF8? bytes).getD wanted
    else wanted
  | none => wanted

/-- Whether the first character of a text is uppercase. -/
def startsUppercase (s : String) : Bool :=
  match s.toList with
  | c :: _ => Unicode.isUppercase c
  | [] => false

namespace DocumentRule

/-- Word coherency over one sentence: the reports and the updated memory. -/
def coherency (id : RuleId) (pairs : List (String × String)) (s : Sentence)
    (seen : List (String × String)) : List Suggestion × List (String × String) :=
  (contentTokens s).foldl (fun (acc, seen) tok =>
    let word := match tok.readings.find? (!·.isSentinel) with
      | some r => r.lemmaForm
      | none => tok.text
    let key := Unicode.toLower word
    match seen.lookup key with
    | some first =>
      let respelled := respell tok.text word first
      let rep := if startsUppercase tok.text then Unicode.mapFirst Unicode.charToUpper respelled
        else respelled
      (acc ++ [{ source := id.text,
                 message := "'" ++ word ++ "' and '" ++ first ++ "' should not be used together.",
                 start := tok.start, stop := tok.stop, replacements := [rep] }], seen)
    | none =>
      let other := pairs.findSome? fun (a, b) =>
        if Unicode.toLower a = key then some b
        else if Unicode.toLower b = key then some a
        else none
      match other with
      | some o =>
        let k := Unicode.toLower o
        if (seen.lookup k).isSome then (acc, seen) else (acc, seen ++ [(k, word)])
      | none => (acc, seen)) ([], seen)

/-- Repeated beginnings over one sentence: the reports and the updated memory. -/
def beginning (id : RuleId) (allowed adverbs : List String) (s : Sentence)
    (previous : Option (String × Nat)) : List Suggestion × Option (String × Nat) :=
  match (contentTokens s).head? with
  | some first =>
    if !first.isWord then ([], none)
    else
      let key := Unicode.toLower first.text
      let count := match previous with
        | some (w, c) => if w = key then c + 1 else 1
        | none => 1
      let isAdverb := adverbs.any fun x => Unicode.toLower x = key
      let repeated := (count ≥ 3 || (count ≥ 2 && isAdverb)) &&
        !allowed.any fun x => Unicode.toLower x = key
      let out := if repeated then
          [{ source := id.text,
             message := "The previous sentences also begin with '" ++ first.text ++ "'.",
             start := first.start, stop := first.stop, replacements := [] }]
        else []
      (out, some (key, count))
  | none => ([], none)

/-- Applies rule number `index` to the next sentence, with the check's state. -/
def step (r : DocumentRule) (s : Sentence) (state : Option DocumentState) :
    List Suggestion × DocumentState :=
  match r with
  | wordCoherency id pairs =>
    match state.getD (.coherency []) with
    | .coherency seen =>
      let (out, seen) := coherency id pairs s seen
      (out, .coherency seen)
    | other => ([], other)
  | repeatedBeginning id allowed adverbs =>
    match state.getD (.beginning none) with
    | .beginning previous =>
      let (out, previous) := beginning id allowed adverbs s previous
      (out, .beginning previous)
    | other => ([], other)

end DocumentRule

namespace DocumentCheck

/-- Forgets everything seen so far. -/
def reset (_c : DocumentCheck) : DocumentCheck := {}

/-- Checks the next sentence with all rules, in order. -/
def check (c : DocumentCheck) (rules : List DocumentRule) (s : Sentence) :
    List Suggestion × DocumentCheck :=
  let (out, states) := (rules.zipIdx).foldl (fun (out, states) (r, i) =>
    let (found, st) := r.step s (states.lookup i)
    (out ++ found, (states.filter (·.1 ≠ i)) ++ [(i, st)])) ([], c.states)
  (out, ⟨states⟩)

/-- Without document rules, the check of a sentence finds nothing and keeps its state. -/
theorem check_nil (c : DocumentCheck) (s : Sentence) : c.check [] s = ([], c) :=
  rfl

end DocumentCheck

end Proofreader
