import CloudClient.Settings.Host
import CloudClient.Signature

namespace CloudClient

namespace Host

/-- A credential operation with the given parameters. -/
def command (name : String) (parameters : List Parameter) : Signature :=
  { callee := name, parameters }

/-- The signature of a credential operation, by name. -/
def commandSignature : String → Option Signature
  | "resolve_env_path" =>
    some (command "_resolve_env_path" [Signature.optional "env_path" .none])
  | "token_from_environment" => some (command "token_from_environment" [])
  | "load_token_from_env" =>
    some (command "load_token_from_env" [Signature.optional "env_path" .none])
  | "load_spaces_credentials_from_env" =>
    some (command "load_spaces_credentials_from_env" [Signature.optional "env_path" .none])
  | "setup_do_token" => some (command "setup_do_token" [Signature.optional "env_path" .none])
  | "check_do_token" => some (command "check_do_token" [])
  | "create_api_client" => some (command "create_api_client" [Signature.optional "token" .none])
  | "create_spaces_client" =>
    some (command "create_spaces_client"
      [Signature.required "region", Signature.optional "access_key_id" .none,
        Signature.optional "secret_access_key" .none])
  | _ => Option.none

/-- Runs a bound credential operation. -/
def runCommand (host : Host) (name : String) (args : List Value) : Except Fault Value × Host :=
  let arg := fun (index : Nat) => args.getD index .none
  match name with
  | "resolve_env_path" => (.ok (host.settingsPath (arg 0)), host)
  | "token_from_environment" =>
    (.ok ((host.tokenFromEnvironment.map Value.str).getD .none), host)
  | "load_token_from_env" | "setup_do_token" =>
    let (outcome, after) := host.loadToken (arg 0)
    (Value.str <$> outcome, after)
  | "load_spaces_credentials_from_env" =>
    let (outcome, after) := host.loadSpacesKeys (arg 0)
    ((fun (key, secret) => Value.tuple [.str key, .str secret]) <$> outcome, after)
  | "check_do_token" =>
    let (found, after) := host.checkToken
    (Value.bool <$> found, after)
  | "create_api_client" =>
    let (outcome, after) := host.createClient (arg 0)
    ((fun (client, token) => Value.dict
      [(.str "authorization", .str ("Bearer " ++ token.plain)),
        (.str "base_url", .str client.baseUrl), (.str "timeout", client.timeout)]) <$> outcome,
      after)
  | "create_spaces_client" =>
    let (outcome, after) := host.createSpacesClient (arg 0) (arg 1) (arg 2)
    ((fun (endpoint, region) => Value.dict
      [(.str "endpoint_url", .str endpoint), (.str "region_name", region)]) <$> outcome, after)
  | other => (.error (.unknownTarget other), host)

/-- Calls a credential operation by name. -/
def call (host : Host) (name : String) (args : List Value) : Except Fault Value × Host :=
  match commandSignature name with
  | Option.none => (.error (.unknownTarget name), host)
  | some signature =>
    match signature.bind args [] with
    | .error fault => (.error fault, host)
    | .ok binding => host.runCommand name binding.values

/-- The variables about credentials that are set, in the order of the list of them. -/
def credentialVariables (host : Host) : List (String × String) :=
  (tokenVariables ++ [spacesKeyVariable, spacesSecretVariable, settingsFileVariable]).filterMap
    fun name => (host.get? name).map fun value => (name, value)

end Host

end CloudClient
