import Hostlink.Failure
import Hostlink.Text.Blank
import Hostlink.Yaml.Document

/-!
# The configuration of a connector

A connector keeps its configuration in a YAML file on its machine. The one field that matters here
is the identifier of the connector.
-/

namespace Hostlink.Connector

/-- The field that holds the identifier. -/
def idField : String := "connector_id"

/-- The identifier in a configuration, without the blanks around it. -/
def readId (config : String) : Except ConnectorFault String := do
  let id ← match Yaml.Document.ofText config >>= (·.field? idField) with
    | .ok id => pure id
    | .error fault => throw (.unreadableConfig fault.message)
  match (id.map Text.trim).filter (!·.isEmpty) with
  | some id => return id
  | none => throw .missingId

end Hostlink.Connector
