import GraphQuery.Error
import GraphQuery.Schema.Scalar
import GraphQuery.Text.Case

/-! # Connection settings

`ConnectionConfig` holds what is needed to reach a server. The settings are checked when they are
made and again whenever one of them is assigned. -/

namespace GraphQuery

open GraphQuery.Text GraphQuery.Schema

/-- The settings of a connection, with the names of those that were given and not left to their
defaults. -/
structure ConnectionConfig where
  scheme : String
  host : String
  port : Int
  username : Option String
  password : Option String
  database : String
  name : Option String
  driverConfig : Properties
  given : List String

/-- The form in which a scheme is kept: without what separates it from the host, in small letters. -/
def normalizeScheme (s : String) : String :=
  let cs := (trim s).toList.reverse.dropWhile fun c => c == ':' || c == '/'
  lowercase (String.ofList cs.reverse)

/-- A scheme out of a setting. -/
def readScheme (v : Value) : Checked String := (readName v).map normalizeScheme

/-- A port out of a setting. -/
def readPort (v : Value) : Checked Int := do
  let n ← readInteger v
  if 65535 < n then .fail .aboveMost else if n < 1 then .fail .belowLeast else .ok n

/-- A text that may be missing out of a setting. -/
def readTextSetting (v : Value) : Checked (Option String) := readOptional readText v

namespace ConnectionConfig

/-- What the settings are unless something else is given. -/
def standard : ConnectionConfig :=
  ⟨"bolt", "localhost", 7687, none, none, "neo4j", none, [], []⟩

/-- The names of the settings. -/
def fieldNames : List String :=
  ["scheme", "host", "port", "username", "password", "database", "name", "driver_config"]

/-- The issues with settings that do not exist. -/
def unknownFields (fields : Properties) : Checked Unit :=
  match (fields.filter fun f => !fieldNames.contains f.1).map fun f =>
      (⟨.extraForbidden, [f.1], none⟩ : Issue) with
  | [] => .ok ()
  | issues => .error issues

/-- Checks settings; what is not given has a default. -/
def check (fields : Properties) : Checked ConnectionConfig :=
  let scheme := defaulted fields "scheme" standard.scheme readScheme
  let host := defaulted fields "host" standard.host readName
  let port := defaulted fields "port" standard.port readPort
  let username := defaulted fields "username" standard.username readTextSetting
  let password := defaulted fields "password" standard.password readTextSetting
  let database := defaulted fields "database" standard.database readName
  let name := defaulted fields "name" standard.name readTextSetting
  let driverConfig := defaulted fields "driver_config" standard.driverConfig readProperties
  ((((scheme.and host).and (port.and username)).and
    ((password.and database).and (name.and driverConfig))).and (unknownFields fields)).map fun p =>
      ⟨p.1.1.1.1, p.1.1.1.2, p.1.1.2.1, p.1.1.2.2, p.1.2.1.1, p.1.2.1.2, p.1.2.2.1, p.1.2.2.2,
        givenNames fieldNames fields⟩

/-- Settings out of named values. -/
def ofFields (fields : Properties) : Result ConnectionConfig := Result.ofChecked (check fields)

/-- Settings out of a map that may hold other things as well. -/
def ofMapping (v : Value) : Result ConnectionConfig :=
  if !v.isTruthy then ofFields []
  else
    match v.entries? with
    | none => .error (.noAttribute v "items")
    | some entries =>
      ofFields (entries.filterMap fun e =>
        (e.1.text?.filter fieldNames.contains).map fun k => (k, e.2))

/-- The address of the server. -/
def uri (c : ConnectionConfig) : String :=
  c.scheme ++ "://" ++ c.host ++ ":" ++ toString c.port

/-- Whether there is a name and a password. -/
def isSecured (c : ConnectionConfig) : Bool := c.username.isSome && c.password.isSome

/-- The name and the password as a pair, unless one of them is missing or empty. -/
def auth (c : ConnectionConfig) : Value :=
  match c.username.filter (· ≠ ""), c.password.filter (· ≠ "") with
  | some u, some p => .tuple [.text u, .text p]
  | _, _ => .null

/-- The settings by name. -/
def fields (c : ConnectionConfig) : Properties :=
  [("scheme", .text c.scheme), ("host", .text c.host), ("port", .int c.port),
    ("username", .ofText? c.username), ("password", .ofText? c.password),
    ("database", .text c.database), ("name", .ofText? c.name),
    ("driver_config", .ofProperties c.driverConfig)]

/-- What can be read of the settings by name. -/
def attributes (c : ConnectionConfig) : Properties :=
  c.fields ++ [("uri", .text c.uri), ("is_secured", .bool c.isSecured), ("auth", c.auth)]

/-- The settings with another one. -/
def withField (c : ConnectionConfig) (name : String) (v : Value) : Result ConnectionConfig :=
  let check {α : Type} (read : Value → Checked α) : Result α :=
    Result.ofChecked (Checked.inside name (read v))
  match name with
  | "scheme" => do return { c with scheme := ← check readScheme }
  | "host" => do return { c with host := ← check readName }
  | "port" => do return { c with port := ← check readPort }
  | "username" => do return { c with username := ← check readTextSetting }
  | "password" => do return { c with password := ← check readTextSetting }
  | "database" => do return { c with database := ← check readName }
  | "name" => do return { c with name := ← check readTextSetting }
  | "driver_config" => do return { c with driverConfig := ← check readProperties }
  | "uri" | "is_secured" | "auth" =>
    .error (.noAttribute (.handle "ConnectionConfig") name)
  | _ => .error (.invalid [⟨.unknownAttribute, [name], none⟩])

/-- Assigns a setting. -/
def assign (c : ConnectionConfig) (name : String) (v : Value) : Result ConnectionConfig := do
  return { ← c.withField name v with given := withName name c.given }

end ConnectionConfig

end GraphQuery
