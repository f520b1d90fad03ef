import CloudClient.Settings.Dotenv
import CloudClient.Api.Client
import CloudClient.Text.Case

namespace CloudClient

/-- The environment variables that may hold the API token, in order of preference. -/
def tokenVariables : List String :=
  ["DIGITALOCEAN_ACCESS_TOKEN", "DIGITALOCEAN_TOKEN", "DIGITAL_OCEAN_TOKEN",
    "DIGITAL_OCEAN_ACCESS_TOKEN", "DO_TOKEN"]

/-- The variable naming the settings file. -/
def settingsFileVariable : String := "DO_ENV_FILE"

/-- The variable holding the object storage key. -/
def spacesKeyVariable : String := "SPACES_ACCESS_KEY_ID"

/-- The variable holding the object storage secret. -/
def spacesSecretVariable : String := "SPACES_SECRET_ACCESS_KEY"

/-- The machine the program runs on. -/
structure Host where
  /-- The environment variables, each name once. -/
  environment : List (String × String) := []
  /-- The files, by path relative to the working directory. -/
  files : List (String × String) := []
  /-- The lines printed, oldest first. -/
  printed : List String := []
  deriving Inhabited

namespace Host

/-- The value of a variable. -/
def get? (host : Host) (name : String) : Option String := host.environment.lookup name

/-- Sets a variable, replacing its value if it has one. -/
def setVariable (host : Host) (name value : String) : Host :=
  if host.environment.any (·.1 == name) then
    let replace := fun (entry : String × String) => if entry.1 == name then (name, value) else entry
    { host with environment := host.environment.map replace }
  else { host with environment := host.environment ++ [(name, value)] }

/-- The parts of a path that name directories and files: neither empty nor `.`. -/
def pathParts (path : String) : List String :=
  ((path.toList.splitOn '/').map String.ofList).filter fun part => !part.isEmpty && part != "."

/-- The root of a path as the path library keeps it: none, `//` or `/`. -/
def pathRoot (path : String) : String :=
  match (path.toList.takeWhile (· == '/')).length with
  | 0 => ""
  | 2 => "//"
  | _ => "/"

/-- The text of a path joined with one more part, as the path library writes it. -/
def joinPath (base name : String) : String :=
  pathRoot base ++ "/".intercalate (pathParts base ++ [name])

/-- The settings file in the home directory, `HOME` without trailing slashes or the root. -/
def homeSettingsPath (host : Host) : String :=
  let home := (host.get? "HOME").getD ""
  let home := String.ofList (home.toList.reverse.dropWhile (· == '/')).reverse
  joinPath (if home.isEmpty then "/" else home) ".env"

/-- Whether parts relative to the working directory name it or a directory holding a file. -/
def isDirectory (host : Host) (parts : List String) : Bool :=
  parts.isEmpty || host.files.any fun (path, _) =>
    let key := pathParts path
    key.length > parts.length && key.take parts.length == parts

/-- Resolves a relative path's parts from `reached`, `..` stepping out of an existing directory. -/
def resolveParts (host : Host) (reached : List String) : List String → Option (List String)
  | [] => some reached
  | part :: rest =>
    if part == ".." then
      if !reached.isEmpty && host.isDirectory reached then
        resolveParts host reached.dropLast rest
      else Option.none
    else resolveParts host (reached ++ [part]) rest

/-- The content of the file at a path, if any; files live under the working directory. -/
def file? (host : Host) (path : String) : Option String :=
  if path.startsWith "/" then Option.none
  else do
    let parts ← host.resolveParts [] (pathParts path)
    (host.files.find? fun (p, _) => pathParts p == parts).map (·.2)

/-- The content of the settings file a path value names; text and bytes are paths. -/
def settingsFile? (host : Host) (path : Value) : Except Fault (Option String) :=
  match path with
  | .str p => .ok (host.file? p)
  | .bytes data => .ok (host.file? (String.ofList (Text.decodeLossy data)))
  | .int _ | .bool _ => .ok Option.none
  | other => .error (.raised "TypeError" (.str
      ("stat: path should be string, bytes, os.PathLike or integer, not " ++ other.typeName)))

/-- The settings file to use: the given path if true, else the environment's, else the home one. -/
def settingsPath (host : Host) (given : Value) : Value :=
  if given.truthy then given
  else match host.get? settingsFileVariable with
    | some path => if path.isEmpty then .str host.homeSettingsPath else .str path
    | Option.none => .str host.homeSettingsPath

/-- Whether loading settings files is switched off by a true word, its case folded. -/
def loadingDisabled (host : Host) : Bool :=
  match host.get? "PYTHON_DOTENV_DISABLED" with
  | some value => ["1", "true", "t", "yes", "y"].contains (Text.foldCase value)
  | Option.none => false

/-- Why the environment refuses a variable: a null character, or an `=` in its name. -/
def variableProblem? (name value : String) : Option Fault :=
  if name.contains '\x00' || value.contains '\x00' then
    some (.raised "ValueError" (.str "embedded null byte"))
  else if name.contains '=' then
    some (.raised "ValueError" (.str "illegal environment variable name"))
  else Option.none

/-- Sets the absent variables in order; a refused one stops the setting, the earlier ones set. -/
def setAbsent (host : Host) : List (String × Option String) → Host × Option Fault
  | [] => (host, Option.none)
  | (key, value) :: rest =>
    match value with
    | some v =>
      if (host.get? key).isSome then setAbsent host rest
      else match variableProblem? key v with
        | some fault => (host, some fault)
        | Option.none => setAbsent (host.setVariable key v) rest
    | Option.none => setAbsent host rest

/-- The values of a file's keys with references replaced, in order of first appearance. -/
def resolveBindings (host : Host) :
    List (String × Option String) → List (String × Option String) → List (String × Option String)
  | [], done => done
  | (key, value) :: rest, done =>
    let lookup := fun (name : String) =>
      match host.get? name with
      | some found => some (some found)
      | Option.none => done.lookup name
    let result := value.map (Settings.expand lookup)
    let done := if done.any (·.1 == key) then
        done.map fun (k, v) => if k == key then (k, result) else (k, v)
      else done ++ [(key, result)]
    resolveBindings host rest done

/-- Loads a settings file without replacing a variable set; gives the host and any fault. -/
def load (host : Host) (path : Value) : Host × Option Fault :=
  if host.loadingDisabled then (host, Option.none)
  else match host.settingsFile? path with
    | .error fault => (host, some fault)
    | .ok Option.none => (host, Option.none)
    | .ok (some content) => host.setAbsent (host.resolveBindings (Settings.parse content) [])

/-- The first non-empty token variable. -/
def tokenFromEnvironment (host : Host) : Option String :=
  (tokenVariables.filterMap fun name => (host.get? name).filter (!·.isEmpty)).head?

/-- Loads the settings file and reads the API token. -/
def loadToken (host : Host) (given : Value) : Except Fault String × Host :=
  let path := host.settingsPath given
  match host.load path with
  | (loaded, some fault) => (.error fault, loaded)
  | (loaded, Option.none) =>
    match loaded.tokenFromEnvironment with
    | some token => (.ok token, loaded)
    | Option.none => (.error (.tokenNotFound path.plain), loaded)

/-- Loads the settings file and reads the object storage keys. -/
def loadSpacesKeys (host : Host) (given : Value) : Except Fault (String × String) × Host :=
  let path := host.settingsPath given
  match host.load path with
  | (loaded, some fault) => (.error fault, loaded)
  | (loaded, Option.none) =>
    let key := (loaded.get? spacesKeyVariable).filter (!·.isEmpty)
    let secret := (loaded.get? spacesSecretVariable).filter (!·.isEmpty)
    match key, secret with
    | some k, some s => (.ok (k, s), loaded)
    | _, _ => (.error (.spacesKeysNotFound path.plain), loaded)

/-- The lines printed when no token can be found in a settings file. -/
def missingTokenLines (path : String) : List String :=
  ["⚠️  DigitalOcean API token not found in " ++ path ++ ".",
    "Please ensure " ++ path ++ " contains one of:"] ++
    tokenVariables.map fun name => "  " ++ name ++ "=your-api-token"

/-- Checks that a token can be loaded, printing help when loading fails with a value error. -/
def checkToken (host : Host) : Except Fault Bool × Host :=
  match host.loadToken .none with
  | (.ok _, loaded) => (.ok true, loaded)
  | (.error fault, loaded) =>
    if fault.className == "ValueError" then
      let path := (loaded.settingsPath .none).plain
      (.ok false, { loaded with printed := loaded.printed ++ missingTokenLines path })
    else (.error fault, loaded)

/-- Creates an API client, loading the token when none is given. -/
def createClient (host : Host) (token : Value) : Except Fault (Client × Value) × Host :=
  let (tokenOutcome, after) : Except Fault Value × Host :=
    match token with
    | .none =>
      let (outcome, loaded) := host.loadToken .none
      (Value.str <$> outcome, loaded)
    | given => (.ok given, host)
  match tokenOutcome with
  | .ok t =>
    match Client.create t (.str defaultBaseUrl) defaultTimeout with
    | .ok client => (.ok (client, t), after)
    | .error fault => (.error fault, after)
  | .error fault => (.error fault, after)

/-- Whether text is a region name: a host label that is not all digits, or empty. -/
def isRegionName (text : String) : Bool :=
  let cs := text.toList
  let label := if cs.getLast? == some '\n' then cs.dropLast else cs
  label.length ≤ 63 && label.all (fun c => c.isAlphanum || c == '-') &&
    label.head? != some '-' && label.getLast? != some '-' &&
    !(label.all Char.isDigit && !label.isEmpty)

/-- The region the storage client reports when none is given. -/
def defaultSpacesRegion : String := "us-east-1"

/-- The endpoint of object storage in a region. -/
def spacesEndpoint (region : Value) : String :=
  "https://" ++ region.plain ++ ".digitaloceanspaces.com"

/-- Creates an object storage client for a region, loading the keys unless both are given. -/
def createSpacesClient (host : Host) (region key secret : Value) :
    Except Fault (String × Value) × Host :=
  let (keysOutcome, after) : Except Fault Unit × Host :=
    match key, secret with
    | .none, _ | _, .none =>
      let (outcome, loaded) := host.loadSpacesKeys .none
      ((fun _ => ()) <$> outcome, loaded)
    | _, _ => (.ok (), host)
  match keysOutcome with
  | .error fault => (.error fault, after)
  | .ok () =>
    match region with
    | .none => (.ok (spacesEndpoint region, .str defaultSpacesRegion), after)
    | .str name =>
      if !isRegionName name then
        (.error (.raised "InvalidRegionError" (.str ("Provided region_name '" ++ name ++
          "' doesn't match a supported format."))), after)
      else if name.isEmpty || name.contains '\n' then
        (.error (.raised "ValueError" (.str ("Invalid endpoint: " ++ spacesEndpoint region))),
          after)
      else (.ok (spacesEndpoint region, region), after)
    | .bytes _ =>
      (.error (.raised "TypeError" (.str "cannot use a string pattern on a bytes-like object")),
        after)
    | other =>
      (.error (.raised "TypeError" (.str ("expected string or bytes-like object, got '" ++
        other.typeName ++ "'"))), after)

end Host

end CloudClient
