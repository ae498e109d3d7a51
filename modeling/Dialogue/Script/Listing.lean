import Dialogue.Script.Basic
/-!
# Listings of scripts and steps

The texts that show a script, a step or an option value to a reader.  Elements are listed by their
names only; parameters, checks and extracted fields do not appear.
-/

namespace Dialogue

mutual

/-- The kind and content of a value. -/
def Json.listing : Json → String
  | .null => "Null"
  | .bool value => s!"Bool({value})"
  | .num value => s!"Number({String.ofList (Json.numberChars value)})"
  | .str value => s!"String({Text.cited value})"
  | .arr items => "Array [" ++ ", ".intercalate (Json.itemListings items) ++ "]"
  | .obj ⟨entries⟩ => "Object \x7b" ++ ", ".intercalate (Json.memberListings entries) ++ "\x7d"

def Json.itemListings : List Json → List String
  | [] => []
  | value :: rest => value.listing :: Json.itemListings rest

def Json.memberListings : List (String × Json) → List String
  | [] => []
  | (key, value) :: rest => s!"{Text.cited key}: {value.listing}" :: Json.memberListings rest

end

/-- The values that a guard allows. -/
def allowedListing : Option (List Json) → String
  | none => "None"
  | some values => "Some([" ++ ", ".intercalate (Json.itemListings values) ++ "])"

def Element.listing : Element → String
  | .call name spec => s!"call {name} ({spec.method})"
  | .await name _ => s!"await {name}"
  | .output name _ => s!"output {name}"
  | .ifOption key allowed => s!"if_option {key} {allowedListing allowed}"
  | .endIf => "end_if"
  | .splice name _ => s!"include {name}"

def Script.listing (script : Script) : String :=
  "Definition \x7b name: " ++ Text.cited script.name ++ ", elements: [" ++
    ", ".intercalate (script.elements.map Element.listing) ++ "] \x7d"

/-- The name of a step's kind. -/
def Action.listing : Action → String
  | .call _ => "Call"
  | .await _ => "Await"
  | .output _ => "Output"

def Step.listing (step : Step) : String :=
  "Step \x7b kind: " ++ step.action.listing ++ ", name: " ++ Text.cited step.name ++ " \x7d"

end Dialogue
