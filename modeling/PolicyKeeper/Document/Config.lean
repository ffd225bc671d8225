import PolicyKeeper.Failure
import PolicyKeeper.Setting.Config
import PolicyKeeper.Yaml.Node

/-!
# Configurations as YAML

A configuration file is a YAML mapping with the provider and the properties, or a sequence of the
two. The names of the two are texts, and so is every other name beside them. Where a text is asked
for every scalar will do: a number as it is written, a truth value in lower case, and the word
`null` where there is nothing. Of several documents all have to be configurations, and the last one
counts.
-/

namespace PolicyKeeper

namespace Yaml

/-- Reads a scalar as a text. -/
def text? : Yaml → Option String
  | .null => some "null"
  | .bool b => some (if b then "true" else "false")
  | .int s | .float s | .str s => some s
  | .seq _ | .map _ => none

/-- Reads the name of an entry of a record, which is a text from the start. -/
def name? : Yaml → Option String
  | .str s => some s
  | _ => none

/-- Reads a mapping of texts. -/
def table? : Yaml → Option (Fields String)
  | .map entries =>
    ((settled entries).mapM fun (e : Yaml × Yaml) => do
      return (← text? e.1, ← text? e.2)).map Fields.ofPairs
  | _ => none

end Yaml

namespace Config

/-- Reads the entries of a configuration, of which the last of each name counts. -/
def ofEntries? (entries : List (Yaml × Yaml)) : Option Config := do
  let members ← entries.mapM fun (e : Yaml × Yaml) => do return (← e.1.name?, e.2)
  let named := (Fields.ofPairs members).get?
  return {
    provider := ← (← named "provider").text?
    properties := ←
      match named "properties" with
      | some v => v.table?
      | none => some Fields.empty }

/-- Reads a configuration from a node. -/
def ofYaml? : Yaml → Option Config
  | .map entries => ofEntries? entries
  | .seq [provider] => do return { provider := ← provider.text? }
  | .seq (provider :: properties :: _) => do
    return { provider := ← provider.text?, properties := ← properties.table? }
  | _ => none

/-- Reads a configuration from a text. -/
def ofText (text : String) : Except Failure Config :=
  let last? : Option Config := do (← (← Yaml.parse? text).mapM ofYaml?).getLast?
  match last? with
  | some c => .ok c
  | none => .error { tasks := [.decodingConfig], cause := .outside }

/-- Reads a configuration from the content of a file, if there is such a file. -/
def ofFile (content : Option ByteArray) : Except Failure Config :=
  match content.bind String.fromUTF8? with
  | some text => ofText text
  | none => .error { tasks := [.readingFile], cause := .outside }

end Config

end PolicyKeeper
