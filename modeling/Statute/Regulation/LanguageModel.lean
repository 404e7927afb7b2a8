import Statute.Json.Decode
import Statute.Text.Blank
import Statute.Text.Search

/-!
# Language models

The models that formalize a fragment, their names and prices, and the formalism they write.
-/

namespace Statute

/-- A model that formalizes regulation text. -/
inductive LanguageModel where
  | gpt35Turbo
  | gpt4oMini
  | gpt5
  | gpt5Mini
  | gpt5Nano
  | sonnet4
  | gemini25Flash
deriving DecidableEq, Repr

namespace LanguageModel

/-- Every model, in the order in which they are listed. -/
def all : List LanguageModel :=
  [gpt35Turbo, gpt4oMini, gpt5, gpt5Mini, gpt5Nano, sonnet4, gemini25Flash]

/-- The name of a model in data. -/
def wireName : LanguageModel → String
  | gpt35Turbo => "GPT_3_5_TURBO"
  | gpt4oMini => "GPT_4o_MINI"
  | gpt5 => "GPT_5"
  | gpt5Mini => "GPT_5_MINI"
  | gpt5Nano => "GPT_5_NANO"
  | sonnet4 => "SONNET_4"
  | gemini25Flash => "GEMINI_2_5_FLASH"

/-- The name of a model for readers. -/
def displayName : LanguageModel → String
  | gpt35Turbo => "GPT-3.5 Turbo (OpenAI)"
  | gpt4oMini => "GPT-4o Mini (OpenAI)"
  | gpt5 => "GPT-5 (OpenAI)"
  | gpt5Mini => "GPT-5 Mini (OpenAI)"
  | gpt5Nano => "GPT-5 Nano (OpenAI)"
  | sonnet4 => "Claude Sonnet 4 (Anthropic)"
  | gemini25Flash => "Gemini 2.5 Flash (Google)"

/-- Dollars for a million tokens. -/
structure Rates where
  input : Float
  output : Float

/-- The price of a model. -/
def rates : LanguageModel → Rates
  | gpt35Turbo => ⟨0.5, 1.5⟩
  | gpt4oMini => ⟨0.15, 0.60⟩
  | gpt5 => ⟨1.25, 10.0⟩
  | gpt5Mini => ⟨0.25, 2.00⟩
  | gpt5Nano => ⟨0.05, 0.40⟩
  | sonnet4 => ⟨3.0, 15.0⟩
  | gemini25Flash => ⟨0.30, 2.50⟩

/-- The dollars that numbers of tokens cost. -/
def Rates.estimate (rates : Rates) (tokensIn tokensOut : UInt64) : Float :=
  (tokensIn.toFloat * rates.input + tokensOut.toFloat * rates.output) / 1000000.0

/-- A character in lower case; anything but an ASCII capital stays as it is. -/
def lowered (character : Char) : Char :=
  if 'A' ≤ character ∧ character ≤ 'Z' then Char.ofNat (character.toNat + 32) else character

/-- A name that no model has. -/
structure UnknownModel where
  name : String
deriving DecidableEq

/-- The error in words. -/
def UnknownModel.message (error : UnknownModel) : String :=
  "unknown model '" ++ error.name ++ "', expected one of " ++
    Text.joined ", " (all.map wireName)

/-- The model that a name means, in capitals or not and with blanks around it or not. -/
def ofName (name : String) : Except UnknownModel LanguageModel :=
  let wanted := (Text.trim name.toList).map lowered
  match all.find? fun model => model.wireName.toList.map lowered == wanted with
  | some model => .ok model
  | none => .error ⟨name⟩

/-- The JSON form of a model. -/
def toJson (model : LanguageModel) : Json :=
  .string model.wireName

/-- Reads the JSON form of a model, which is its exact name in data. -/
def ofJson? (json : Json) : Option LanguageModel := do
  let name ← json.alternative?
  all.find? fun model => model.wireName == name

end LanguageModel

/-- The formalism that a fragment is written in. -/
inductive Formalism where
  | prolog
deriving DecidableEq, Repr

namespace Formalism

/-- The name of a formalism for readers. -/
def displayName : Formalism → String
  | prolog => "Prolog"

/-- The JSON form of a formalism. -/
def toJson : Formalism → Json
  | prolog => .string "PROLOG"

/-- Reads the JSON form of a formalism. -/
def ofJson? (json : Json) : Option Formalism := do
  let name ← json.alternative?
  if name = "PROLOG" then some prolog else none

end Formalism

end Statute
