import Proofreader.RuleFile.Decode
import Proofreader.RuleFile.Compile

/-!
# Loading rules from JSON

Reads a record of the rule format and compiles it. A value that does not have the shape of the
record is a format error (`Error.json`); a record that does but describes an impossible rule
gives the compile error.
-/

namespace Proofreader

/-- Reads a record with `decode` and compiles it with `compile`. -/
def loadWith {σ τ : Type} (decode : Json → Option σ) (compile : σ → Except Error τ) (j : Json) :
    Except Error τ :=
  match decode j with
  | some spec => compile spec
  | none => .error .json

namespace Rule

/-- A grammar rule from its JSON record. -/
def ofJson (E : RegexEngine) (j : Json) : Except Error Rule :=
  loadWith RuleSpec.decode? (RuleSpec.compile E) j

end Rule

namespace BitextRule

/-- A bitext rule from its JSON record. -/
def ofJson (E : RegexEngine) (j : Json) : Except Error BitextRule :=
  loadWith BitextRuleSpec.decode? (BitextRuleSpec.compile E) j

end BitextRule

namespace DisambiguationRule

/-- A disambiguation rule from its JSON record. -/
def ofJson (E : RegexEngine) (j : Json) : Except Error DisambiguationRule :=
  loadWith DisambiguationRuleSpec.decode? (DisambiguationRuleSpec.compile E) j

end DisambiguationRule

namespace Disambiguator

/-- Disambiguation rules from a JSON list of records: all records are read first, then
compiled in order; the first failure is the answer. -/
def ofJson (E : RegexEngine) (j : Json) : Except Error Disambiguator :=
  loadWith (Json.listOf DisambiguationRuleSpec.decode?)
    (fun specs => do pure ⟨← specs.mapM (DisambiguationRuleSpec.compile E)⟩) j

end Disambiguator

end Proofreader
