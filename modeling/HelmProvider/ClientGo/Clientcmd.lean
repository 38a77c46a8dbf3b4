/-
# The kubeconfig loader: `clientcmd` with overrides

`toRawKubeConfigLoader` hands client-go a `ClientConfigLoadingRules` (an explicit file
path, or none) and a `ConfigOverrides`, and `ToRESTConfig` asks the resulting deferred
loader for its `ClientConfig()`. This module models that library side, as client-go v12
has it: the kubeconfig records, `mergo.MergeWithOverwrite` field by field (a non-zero
override replaces the file's value, a zero one leaves it), the selection of context,
cluster and user, the usability check (a named context exists; a client certificate comes
with a key, an exec plugin with a command and an API version, a token without basic
authentication; the cluster names a server), and the REST config built from the merged
cluster and user. As in client-go, the server address is read back with
`url.ParseRequestURI` and printed again without query and fragment when it has a path, and
the user's credentials and the cluster's CA reach the REST config only when the address is
`https`.

The errors `ConfirmUsable` collects are values, not only texts: the deferred loader turns
to the in-cluster configuration exactly when the error is `ErrEmptyConfig` alone
(`IsEmptyConfig`), which the usability check reports for an empty merged cluster. Whether
client-go runs in a pod, and what `rest.InClusterConfig()` then returns, is an input of the
model. The provider's loading rules have no `DefaultClientConfig`, so a REST config built
from the file is never mistaken for the defaults.

The model keeps the fields the provider writes or the REST config reads. Certificate
files, auth providers, impersonation and credential prompts are not modelled.
-/

import HelmProvider.ClientGo.Rest

namespace HelmProvider

namespace Clientcmdapi

/-- `clientcmdapi.Cluster`. -/
structure Cluster where
  server : String := ""
  insecureSkipTLSVerify : Bool := false
  certificateAuthorityData : String := ""
  deriving DecidableEq, Repr

/-- `clientcmdapi.ExecEnvVar`. -/
structure ExecEnvVar where
  name : String
  value : String
  deriving DecidableEq, Repr

/-- `clientcmdapi.ExecConfig`: the credential plugin of a user. -/
structure ExecConfig where
  command : String := ""
  args : List String := []
  env : List ExecEnvVar := []
  apiVersion : String := ""
  deriving DecidableEq, Repr

/-- `clientcmdapi.AuthInfo`; certificate and key hold the PEM text as bytes. -/
structure AuthInfo where
  clientCertificateData : String := ""
  clientKeyData : String := ""
  token : String := ""
  username : String := ""
  password : String := ""
  exec : Option ExecConfig := none
  deriving DecidableEq, Repr

/-- `clientcmdapi.Context`; `ns` is its `Namespace`. -/
structure Context where
  cluster : String := ""
  authInfo : String := ""
  ns : String := ""
  deriving DecidableEq, Repr

/-- `clientcmdapi.Config`: the content of a kubeconfig file. -/
structure Config where
  clusters : List (String × Cluster) := []
  authInfos : List (String × AuthInfo) := []
  contexts : List (String × Context) := []
  currentContext : String := ""
  deriving DecidableEq, Repr

/-- `mergo.MergeWithOverwrite` on one string field: a non-empty `src` replaces `dst`. -/
def overwrite (dst src : String) : String :=
  if src = "" then dst else src

@[simp] theorem overwrite_of_ne_empty (dst : String) {src : String} (hsrc : src ≠ "") :
    overwrite dst src = src := if_neg hsrc

/-- `mergo.MergeWithOverwrite(dst, src)` on clusters; `true` is the non-zero boolean. -/
def Cluster.merge (dst src : Cluster) : Cluster where
  server := overwrite dst.server src.server
  insecureSkipTLSVerify := dst.insecureSkipTLSVerify || src.insecureSkipTLSVerify
  certificateAuthorityData := overwrite dst.certificateAuthorityData src.certificateAuthorityData

/-- `mergo.MergeWithOverwrite(dst, src)` on users; a non-nil `Exec` replaces the other. -/
def AuthInfo.merge (dst src : AuthInfo) : AuthInfo where
  clientCertificateData := overwrite dst.clientCertificateData src.clientCertificateData
  clientKeyData := overwrite dst.clientKeyData src.clientKeyData
  token := overwrite dst.token src.token
  username := overwrite dst.username src.username
  password := overwrite dst.password src.password
  exec := src.exec.orElse fun _ => dst.exec

/-- `mergo.MergeWithOverwrite(dst, src)` on contexts. -/
def Context.merge (dst src : Context) : Context where
  cluster := overwrite dst.cluster src.cluster
  authInfo := overwrite dst.authInfo src.authInfo
  ns := overwrite dst.ns src.ns

end Clientcmdapi

open Clientcmdapi

namespace Rest

/-- `rest.Config`, with the fields the provider and the loader touch. -/
structure Config where
  host : String := ""
  username : String := ""
  password : String := ""
  bearerToken : String := ""
  insecure : Bool := false
  caData : String := ""
  certData : String := ""
  keyData : String := ""
  execProvider : Option ExecConfig := none
  userAgent : String := ""
  burst : Nat := 0
  deriving DecidableEq, Repr

/-- `defaultServerUrlFor`: the REST client's own defaulting of its host, with TLS implied
by CA data, a client certificate or `Insecure`. -/
def defaultServerUrlFor (config : Config) : Except String Url.URL :=
  let defaultTLS := config.caData ≠ "" || config.certData ≠ "" || config.insecure
  defaultServerURL (if config.host = "" then "localhost" else config.host) defaultTLS

/-- `IsConfigTransportTLS`: whether the defaulted host is `https`. -/
def isConfigTransportTLS (config : Config) : Bool :=
  match defaultServerUrlFor config with
  | .ok u => u.scheme = "https"
  | .error _ => false

end Rest

namespace Clientcmd

/-- `clientcmd.ConfigOverrides`. -/
structure ConfigOverrides where
  authInfo : AuthInfo := {}
  clusterInfo : Cluster := {}
  context : Context := {}
  currentContext : String := ""
  deriving DecidableEq, Repr

/-- `clientcmd.ClientConfigLoadingRules`, of which the provider sets only `ExplicitPath`. -/
structure ClientConfigLoadingRules where
  explicitPath : String := ""
  deriving DecidableEq, Repr

/-- What `NewNonInteractiveDeferredLoadingClientConfig` builds: the loader behind the
`clientcmd.ClientConfig` interface that `toRawKubeConfigLoader` returns. -/
structure DeferredLoadingClientConfig where
  loader : ClientConfigLoadingRules
  overrides : ConfigOverrides
  deriving DecidableEq, Repr

/-- `NewNonInteractiveDeferredLoadingClientConfig`, which never returns nil. Go's
`ClientConfig` method is `clientConfig` here, and `Load` is `load`. -/
def newNonInteractiveDeferredLoadingClientConfig (loader : ClientConfigLoadingRules)
    (overrides : ConfigOverrides) : DeferredLoadingClientConfig :=
  ⟨loader, overrides⟩

/-- The kubeconfig files on disk, by path. -/
abbrev Files := String → Option Clientcmdapi.Config

/-- `(*ClientConfigLoadingRules).Load`: the explicit file when one is named, an empty
configuration when the rules name no file. -/
def ClientConfigLoadingRules.load (files : Files) (rules : ClientConfigLoadingRules) :
    Except String Clientcmdapi.Config :=
  if rules.explicitPath = "" then .ok {}
  else match files rules.explicitPath with
    | some config => .ok config
    | none => .error ("stat " ++ rules.explicitPath ++ ": no such file or directory")

/-- The cleanup `ClientConfig` applies to the cluster's server: an address that
`ParseRequestURI` reads with a path longer than one byte is printed again without its query
and fragment. -/
def stripQuery (host : String) : String :=
  match Url.parseRequestURI host with
  | .ok u =>
    if u.opaquePart = "" ∧ 1 < u.path.utf8ByteSize then
      { u with rawQuery := "", fragment := "" }.string
    else host
  | .error _ => host

/-- The cleanup leaves an address that `DefaultServerURL` printed as it is when the address
has no fragment and an empty or `/` path, as every bare host has. -/
theorem stripQuery_of_defaultServerURL {host : String} {defaultTLS : Bool} {u : Url.URL}
    (hurl : Rest.defaultServerURL host defaultTLS = .ok u) (hfragment : u.fragment = "")
    (hpath : u.path = "" ∨ u.path = "/") : stripQuery u.string = u.string := by
  obtain ⟨hscheme, hopaquePart⟩ := Rest.defaultServerURL_wellFormed hurl
  unfold stripQuery
  split
  · rename_i v hparse
    have hslash : u.path.toList = [] ∨ ∃ rest, u.path.toList = '/' :: rest := by
      rcases hpath with h | h <;> simp [h]
    obtain ⟨-, hvpath⟩ := Url.parseRequestURI_string hscheme hopaquePart hfragment hslash hparse
    have hshort : v.path.utf8ByteSize ≤ 1 := by
      rw [hvpath, Url.URL.escapedPath]
      rcases hpath with h | h <;> rw [h] <;> decide
    rw [if_neg fun h => by omega]
  · rfl

/-- With a fragment after its `/`, the address is read back with `#` in its path, which
`String` then escapes. -/
example : stripQuery "http://example.com/#x" = "http://example.com/%23x" := by decide

/-- The complaints `ConfirmUsable` collects. client-go compares `ErrEmptyCluster` and
`ErrEmptyConfig` by identity, so they are kept apart from the other errors, which matter
by their text only. -/
inductive ValidationError where
  | emptyCluster
  | emptyConfig
  | other (text : String)
  deriving DecidableEq, Repr

/-- `Error()` of a complaint. -/
def ValidationError.text : ValidationError → String
  | .emptyCluster => "cluster has no server defined"
  | .emptyConfig => "no configuration has been provided"
  | .other text => text

/-- The errors of `ClientConfig`: `errConfigurationInvalid`, the complaints of
`ConfirmUsable`, or any other error, by its text. -/
inductive ConfigError where
  | invalid (errors : List ValidationError)
  | other (text : String)
  deriving DecidableEq, Repr

/-- `Error()`: `errConfigurationInvalid` prints its complaints as `utilerrors.NewAggregate`
does. -/
def ConfigError.text : ConfigError → String
  | .invalid [e] => "invalid configuration: " ++ e.text
  | .invalid errors =>
    "invalid configuration: [" ++ ", ".intercalate (errors.map ValidationError.text) ++ "]"
  | .other text => text

/-- `IsEmptyConfig`: `errConfigurationInvalid` holding `ErrEmptyConfig` alone. -/
def ConfigError.isEmptyConfig : ConfigError → Bool
  | .invalid [.emptyConfig] => true
  | _ => false

/-- `DirectClientConfig` as `NewNonInteractiveClientConfig` builds it from the loaded
file; its `contextName` is the override's current context. -/
structure DirectClientConfig where
  config : Clientcmdapi.Config
  overrides : ConfigOverrides

namespace DirectClientConfig

variable (dc : DirectClientConfig)

/-- `getContextName`: the override's current context is required to exist. -/
def getContextName : String × Bool :=
  if dc.overrides.currentContext ≠ "" then (dc.overrides.currentContext, true)
  else (dc.config.currentContext, false)

/-- What `getContext`, `getAuthInfo` and `getCluster` share: the selected entry of the
file merged with the override; an absent entry is an error when its name is required and
the zero value otherwise. -/
def lookupMerged {α : Type} (kind : String) (entries : List (String × α))
    (selected : String × Bool) (zero : α) (merge : α → α) : Except ConfigError α :=
  match entries.lookup selected.1 with
  | some entry => .ok (merge entry)
  | none =>
    if selected.2 then .error (.other (kind ++ " " ++ Fmt.quote selected.1 ++ " does not exist"))
    else .ok (merge zero)

/-- `getContext`: the selected context of the file, overridden field by field. -/
def getContext : Except ConfigError Context :=
  lookupMerged "context" dc.config.contexts dc.getContextName {}
    (Context.merge · dc.overrides.context)

/-- What `getAuthInfoName` and `getClusterName` share: the context's field named by an
override, required to exist, or else the field of the merged context. -/
def selectName (override : String) (ofContext : Context → String) : String × Bool :=
  if override ≠ "" then (override, true)
  else match dc.getContext with
    | .ok context => (ofContext context, false)
    | .error _ => ("", false)

/-- `getAuthInfoName`. -/
def getAuthInfoName : String × Bool :=
  dc.selectName dc.overrides.context.authInfo Context.authInfo

/-- `getClusterName`. -/
def getClusterName : String × Bool :=
  dc.selectName dc.overrides.context.cluster Context.cluster

/-- `getAuthInfo`: the selected user of the file, overridden field by field. -/
def getAuthInfo : Except ConfigError AuthInfo :=
  lookupMerged "auth info" dc.config.authInfos dc.getAuthInfoName {}
    (AuthInfo.merge · dc.overrides.authInfo)

/-- The cluster `getCluster` makes of the file's: the override merged over it, where an
insecure override without CA data also clears the file's CA data. -/
def mergeClusterInfo (override file : Cluster) : Cluster :=
  if override.insecureSkipTLSVerify ∧ override.certificateAuthorityData = "" then
    { Cluster.merge file override with certificateAuthorityData := "" }
  else Cluster.merge file override

/-- `getCluster`: the selected cluster of the file, overridden field by field. -/
def getCluster : Except ConfigError Cluster :=
  lookupMerged "cluster" dc.config.clusters dc.getClusterName {}
    (mergeClusterInfo dc.overrides.clusterInfo)

/-- `validateAuthInfo` on the fields the model keeps: a client certificate needs a key, an
exec plugin needs a command, an API version and named, non-empty environment variables, and
a token and basic authentication exclude each other. -/
def validateAuthInfo (name : String) (authInfo : AuthInfo) : List String :=
  let methods := (if authInfo.token ≠ "" then ["token"] else []) ++
    (if authInfo.username ≠ "" ∨ authInfo.password ≠ "" then ["basicAuth"] else [])
  let plugin := " to use exec authentication plugin"
  let certErrors :=
    if authInfo.clientCertificateData ≠ "" ∧ authInfo.clientKeyData = "" then
      ["client-key-data or client-key must be specified for " ++ name ++
        " to use the clientCert authentication method."]
    else []
  let execErrors := match authInfo.exec with
    | some exec =>
      (if exec.command = "" then ["command must be specified for " ++ name ++ plugin] else []) ++
      (if exec.apiVersion = "" then ["apiVersion must be specified for " ++ name ++ plugin]
        else []) ++
      exec.env.flatMap fun v =>
        if v.name = "" then ["env variable name must be specified for " ++ name ++ plugin]
        else if v.value = "" then
          ["env variable " ++ v.name ++ " value must be specified for " ++ name ++ plugin]
        else []
    | none => []
  let methodErrors :=
    if 1 < methods.length then
      ["more than one authentication method found for " ++ name ++ "; found [" ++
        " ".intercalate methods ++ "], only one is allowed"]
    else []
  certErrors ++ execErrors ++ methodErrors

/-- The complaint of `validateClusterInfo` about a cluster without server. -/
def noServer (name : String) : ValidationError :=
  .other (if name = "" then "default cluster has no server defined"
    else "no server found for cluster " ++ Fmt.quote name)

/-- `validateClusterInfo`: a cluster must name a server; one equal to `NewCluster()`'s is
`ErrEmptyCluster`. -/
def validateClusterInfo (name : String) (cluster : Cluster) : List ValidationError :=
  if cluster = {} then [.emptyCluster]
  else if cluster.server = "" then [noServer name] else []

/-- The complaints `ConfirmUsable` collects, in its order: a named context must exist, and
the selected user and cluster pass their checks. A user or cluster that cannot be looked
up is checked as Go's zero value, whose cluster is not the empty one `NewCluster` makes. -/
def usabilityErrors : List ValidationError :=
  let name := dc.getContextName.1
  let contextErrors :=
    if name ≠ "" ∧ (dc.config.contexts.lookup name).isNone then
      [.other ("context was not found for specified context: " ++ name)] else []
  let authErrors := match dc.getAuthInfo with
    | .ok authInfo => (validateAuthInfo dc.getAuthInfoName.1 authInfo).map .other
    | .error _ => []
  let clusterErrors := match dc.getCluster with
    | .ok cluster => validateClusterInfo dc.getClusterName.1 cluster
    | .error _ => [noServer dc.getClusterName.1]
  contextErrors ++ authErrors ++ clusterErrors

/-- `newErrConfigurationInvalid`: no error for no complaints. -/
def configurationInvalid : List ValidationError → Except ConfigError Unit
  | [] => .ok ()
  | errors => .error (.invalid errors)

/-- `ConfirmUsable`: when the only complaint is `ErrEmptyCluster`, the error is
`ErrEmptyConfig`. -/
def confirmUsable : Except ConfigError Unit :=
  configurationInvalid
    (if dc.usabilityErrors = [.emptyCluster] then [.emptyConfig] else dc.usabilityErrors)

/-- `getUserIdentificationPartialConfig` followed by `getServerIdentificationPartialConfig`,
merged over a REST config that holds only the host. -/
def withCredentials (base : Rest.Config) (authInfo : AuthInfo) (cluster : Cluster) :
    Rest.Config :=
  let hasCert := authInfo.clientCertificateData ≠ ""
  let hasBasic := authInfo.username ≠ "" ∨ authInfo.password ≠ ""
  { base with
    bearerToken := authInfo.token
    certData := if hasCert then authInfo.clientCertificateData else ""
    keyData := if hasCert then authInfo.clientKeyData else ""
    username := if hasBasic then authInfo.username else ""
    password := if hasBasic then authInfo.password else ""
    execProvider := authInfo.exec
    caData := cluster.certificateAuthorityData
    insecure := cluster.insecureSkipTLSVerify }

/-- `(*DirectClientConfig).ClientConfig`: the host is the merged cluster's server, after
`stripQuery`, and the credentials are read only if that host is `https`. -/
def clientConfig : Except ConfigError Rest.Config := do
  let authInfo ← dc.getAuthInfo
  let _ ← dc.getContext
  let cluster ← dc.getCluster
  dc.confirmUsable
  let base : Rest.Config := { host := stripQuery cluster.server }
  return if Rest.isConfigTransportTLS base then withCredentials base authInfo cluster else base

end DirectClientConfig

/-- `(*inClusterClientConfig).ClientConfig`: what `rest.InClusterConfig()` returns, with the
overrides' server and token in place of its own when they are non-empty. -/
def inClusterClientConfig (overrides : ConfigOverrides) (icc : Except String Rest.Config) :
    Except String Rest.Config := do
  let config ← icc
  return { config with
    host := overwrite config.host overrides.clusterInfo.server
    bearerToken := overwrite config.bearerToken overrides.authInfo.token }

/-- `(*DeferredLoadingClientConfig).ClientConfig`: load the file the rules name and build
the REST config from it and the overrides. When that configuration is empty
(`IsEmptyConfig`) and client-go runs in a pod, it returns the in-cluster configuration
instead: `inCluster` is what `rest.InClusterConfig()` gives there, and `none` outside a pod,
where `icc.Possible()` is false. -/
def DeferredLoadingClientConfig.clientConfig (files : Files)
    (inCluster : Option (Except String Rest.Config)) (c : DeferredLoadingClientConfig) :
    Except String Rest.Config := do
  let config ← c.loader.load files
  match DirectClientConfig.clientConfig ⟨config, c.overrides⟩ with
  | .ok restConfig => .ok restConfig
  | .error err =>
    if err.isEmptyConfig then
      match inCluster with
      | some icc => inClusterClientConfig c.overrides icc
      | none => .error err.text
    else .error err.text

/-- No file and no overrides in a pod: the in-cluster configuration. -/
example : DeferredLoadingClientConfig.clientConfig (fun _ => none)
    (some (.ok { host := "https://10.0.0.1:443", bearerToken := "sa" })) ⟨{}, {}⟩ =
      .ok { host := "https://10.0.0.1:443", bearerToken := "sa" } := rfl

/-- The same outside a pod: client-go's `ErrEmptyConfig`. -/
example : DeferredLoadingClientConfig.clientConfig (fun _ => none) none ⟨{}, {}⟩ =
    .error "invalid configuration: no configuration has been provided" := rfl

namespace DirectClientConfig

variable {dc : DirectClientConfig}

/-- A looked-up entry is the file's entry of the selected name, or the zero value when the
file has none, merged with the override. -/
theorem lookupMerged_eq_ok {α : Type} {kind : String} {entries : List (String × α)}
    {selected : String × Bool} {zero : α} {merge : α → α} {a : α}
    (h : lookupMerged kind entries selected zero merge = .ok a) :
    ∃ entry, (entries.lookup selected.1 = some entry ∨
      entries.lookup selected.1 = none ∧ entry = zero) ∧ a = merge entry := by
  unfold lookupMerged at h
  split at h
  · cases h; exact ⟨_, .inl ‹_›, rfl⟩
  · split at h
    · cases h
    · cases h; exact ⟨_, .inr ⟨‹_›, rfl⟩, rfl⟩

/-- A failed lookup is an error of its own, never a complaint of `ConfirmUsable`. -/
theorem lookupMerged_eq_error {α : Type} {kind : String} {entries : List (String × α)}
    {selected : String × Bool} {zero : α} {merge : α → α} {err : ConfigError}
    (h : lookupMerged kind entries selected zero merge = .error err) : ∃ text, err = .other text := by
  unfold lookupMerged at h
  split at h
  · cases h
  · split at h
    · cases h; exact ⟨_, rfl⟩
    · cases h

/-- Every complaint `ConfirmUsable` collects is an error by its text, or `ErrEmptyCluster`
for an empty merged cluster. -/
theorem mem_usabilityErrors {e : ValidationError} (he : e ∈ dc.usabilityErrors) :
    (∃ text, e = .other text) ∨ e = .emptyCluster ∧ dc.getCluster = .ok {} := by
  simp only [usabilityErrors, List.mem_append] at he
  rcases he with (hcontext | hauth) | hcluster
  · split at hcontext
    · exact .inl ⟨_, List.mem_singleton.1 hcontext⟩
    · cases hcontext
  · split at hauth
    · obtain ⟨text, -, rfl⟩ := List.mem_map.1 hauth
      exact .inl ⟨text, rfl⟩
    · cases hauth
  · split at hcluster
    · rename_i cluster hlookup
      unfold validateClusterInfo at hcluster
      split_ifs at hcluster with hzero
      · exact .inr ⟨List.mem_singleton.1 hcluster, hzero ▸ hlookup⟩
      · exact .inl ⟨_, List.mem_singleton.1 hcluster⟩
      · cases hcluster
    · exact .inl ⟨_, List.mem_singleton.1 hcluster⟩

/-- `ConfirmUsable` reports `ErrEmptyConfig` alone only on an empty merged cluster: it reports
it for the complaints `[ErrEmptyCluster]`, and never collects it itself. -/
theorem confirmUsable_emptyConfig {err : ConfigError} (h : dc.confirmUsable = .error err)
    (hempty : err.isEmptyConfig) : dc.getCluster = .ok {} := by
  have hsingle : dc.usabilityErrors = [.emptyCluster] := by
    by_contra hne
    rw [confirmUsable, if_neg hne] at h
    have hcollected : ValidationError.emptyConfig ∈ dc.usabilityErrors := by
      cases herrors : dc.usabilityErrors with
      | nil => simp [herrors, configurationInvalid] at h
      | cons e rest =>
        rw [herrors] at h
        cases h
        match e, rest, hempty with
        | .emptyConfig, [], _ => exact List.mem_singleton_self _
    rcases mem_usabilityErrors hcollected with ⟨_, h⟩ | ⟨h, -⟩ <;> cases h
  exact ((mem_usabilityErrors (hsingle ▸ List.mem_singleton_self _)).resolve_left
    fun ⟨_, h⟩ => nomatch h).2

/-- A server override names the merged cluster's server. -/
theorem getCluster_server {cluster : Cluster} (h : dc.getCluster = .ok cluster)
    (hserver : dc.overrides.clusterInfo.server ≠ "") :
    cluster.server = dc.overrides.clusterInfo.server := by
  obtain ⟨file, -, rfl⟩ := lookupMerged_eq_ok h
  unfold mergeClusterInfo
  split <;> simp [Cluster.merge, overwrite_of_ne_empty _ hserver]

theorem overwrite_eq_empty {dst src : String} (h : overwrite dst src = "") : src = "" ∧ dst = "" := by
  unfold overwrite at h
  split at h
  · exact ⟨‹_›, h⟩
  · exact absurd h ‹_›

/-- The merged cluster is empty only when the override sets no cluster field. -/
theorem mergeClusterInfo_eq_empty {override file : Cluster}
    (h : mergeClusterInfo override file = {}) : override = {} := by
  unfold mergeClusterInfo at h
  split at h
  · rename_i hinsecure
    have hflag := congrArg Cluster.insecureSkipTLSVerify h
    simp [Cluster.merge, hinsecure.1] at hflag
  · obtain ⟨server, insecure, ca⟩ := override
    simp only [Cluster.merge, Cluster.mk.injEq, Bool.or_eq_false_iff] at h
    obtain ⟨hserver, ⟨-, rfl⟩, hca⟩ := h
    rw [(overwrite_eq_empty hserver).1, (overwrite_eq_empty hca).1]

/-- An empty merged cluster comes from overrides that set no cluster field. -/
theorem getCluster_eq_empty (h : dc.getCluster = .ok {}) : dc.overrides.clusterInfo = {} := by
  obtain ⟨file, -, hmerge⟩ := lookupMerged_eq_ok h
  exact mergeClusterInfo_eq_empty hmerge.symm

/-- A REST config `ClientConfig` returns: the merged cluster's server after `stripQuery` as
host, with the merged user's credentials and the cluster's CA and flag over `https` only. -/
theorem clientConfig_eq_ok {config : Rest.Config} (h : dc.clientConfig = .ok config) :
    ∃ authInfo cluster, dc.getAuthInfo = .ok authInfo ∧ dc.getCluster = .ok cluster ∧
      dc.confirmUsable = .ok () ∧ config.host = stripQuery cluster.server ∧
      config = if Rest.isConfigTransportTLS { host := config.host }
        then withCredentials { host := config.host } authInfo cluster
        else { host := config.host } := by
  unfold clientConfig at h
  obtain ⟨authInfo, hauth, h⟩ := bind_eq_ok.1 h
  obtain ⟨_, -, h⟩ := bind_eq_ok.1 h
  obtain ⟨cluster, hcluster, h⟩ := bind_eq_ok.1 h
  obtain ⟨⟨⟩, husable, h⟩ := bind_eq_ok.1 h
  cases h
  refine ⟨authInfo, cluster, hauth, hcluster, husable, by split <;> rfl, ?_⟩
  by_cases htls : Rest.isConfigTransportTLS { host := stripQuery cluster.server }
  · rw [if_pos htls]; exact (if_pos htls).symm
  · rw [if_neg htls]; exact (if_neg htls).symm

/-- The REST config's host is the merged cluster's server after `stripQuery`, credentials
or not. -/
theorem clientConfig_host {config : Rest.Config} (h : dc.clientConfig = .ok config) :
    ∃ cluster, dc.getCluster = .ok cluster ∧ config.host = stripQuery cluster.server :=
  let ⟨_, cluster, _, hcluster, _, hhost, _⟩ := clientConfig_eq_ok h
  ⟨cluster, hcluster, hhost⟩

/-- `ClientConfig` fails with `ErrEmptyConfig` alone only once the user, the context and
an empty merged cluster were looked up. -/
theorem clientConfig_emptyConfig {err : ConfigError} (h : dc.clientConfig = .error err)
    (hempty : err.isEmptyConfig) :
    (∃ authInfo, dc.getAuthInfo = .ok authInfo) ∧ (∃ context, dc.getContext = .ok context) ∧
      dc.getCluster = .ok {} := by
  have hlookup {α : Type} (kind : String) (entries : List (String × α)) selected zero merge :
      lookupMerged kind entries selected zero merge ≠ .error err := fun hx => by
    obtain ⟨text, rfl⟩ := lookupMerged_eq_error hx
    cases hempty
  unfold clientConfig at h
  rcases bind_eq_error.1 h with ha | ⟨authInfo, ha, h⟩
  · exact absurd ha (hlookup _ _ _ _ _)
  rcases bind_eq_error.1 h with hc | ⟨context, hc, h⟩
  · exact absurd hc (hlookup _ _ _ _ _)
  rcases bind_eq_error.1 h with hm | ⟨cluster, hm, h⟩
  · exact absurd hm (hlookup _ _ _ _ _)
  rcases bind_eq_error.1 h with hu | ⟨_, -, h⟩
  · exact ⟨⟨_, ha⟩, ⟨_, hc⟩, confirmUsable_emptyConfig hu hempty⟩
  · cases h

end DirectClientConfig

namespace DeferredLoadingClientConfig

variable {files : Files} {inCluster : Option (Except String Rest.Config)}
  {c : DeferredLoadingClientConfig} {config : Rest.Config}

/-- What the loader returns: the REST config of the loaded file under the overrides, or,
when that configuration is empty and client-go runs in a pod, the in-cluster config under
the overrides, after the user and the context were looked up and with an empty merged
cluster. -/
theorem clientConfig_eq_ok (h : c.clientConfig files inCluster = .ok config) :
    ∃ loaded, c.loader.load files = .ok loaded ∧
      (DirectClientConfig.clientConfig ⟨loaded, c.overrides⟩ = .ok config ∨
        (∃ authInfo, DirectClientConfig.getAuthInfo ⟨loaded, c.overrides⟩ = .ok authInfo) ∧
        (∃ context, DirectClientConfig.getContext ⟨loaded, c.overrides⟩ = .ok context) ∧
        DirectClientConfig.getCluster ⟨loaded, c.overrides⟩ = .ok {} ∧
        ∃ icc, inCluster = some icc ∧ inClusterClientConfig c.overrides icc = .ok config) := by
  unfold clientConfig at h
  obtain ⟨loaded, hload, h⟩ := bind_eq_ok.1 h
  refine ⟨loaded, hload, ?_⟩
  split at h
  · rename_i hdirect
    cases h
    exact .inl hdirect
  · rename_i err herr
    split at h
    · rename_i hempty
      obtain ⟨hauth, hcontext, hcluster⟩ := DirectClientConfig.clientConfig_emptyConfig herr hempty
      split at h
      · exact .inr ⟨hauth, hcontext, hcluster, _, rfl, h⟩
      · cases h
    · cases h

/-- The in-cluster configuration is taken only when the overrides set no cluster field. -/
theorem clientConfig_of_clusterInfo (h : c.clientConfig files inCluster = .ok config)
    (hcluster : c.overrides.clusterInfo ≠ {}) :
    ∃ loaded, c.loader.load files = .ok loaded ∧
      DirectClientConfig.clientConfig ⟨loaded, c.overrides⟩ = .ok config := by
  obtain ⟨loaded, hload, hdirect | ⟨-, -, hempty, -⟩⟩ := clientConfig_eq_ok h
  · exact ⟨loaded, hload, hdirect⟩
  · exact absurd (DirectClientConfig.getCluster_eq_empty hempty) hcluster

/-- With a server override, the REST config the loader returns has that server, after
`stripQuery`, as host. -/
theorem clientConfig_host (h : c.clientConfig files inCluster = .ok config)
    (hserver : c.overrides.clusterInfo.server ≠ "") :
    config.host = stripQuery c.overrides.clusterInfo.server := by
  obtain ⟨loaded, -, h⟩ := clientConfig_of_clusterInfo h fun hempty => hserver (by rw [hempty])
  obtain ⟨cluster, hcluster, hhost⟩ := DirectClientConfig.clientConfig_host h
  rw [hhost, DirectClientConfig.getCluster_server hcluster hserver]

end DeferredLoadingClientConfig

end Clientcmd

end HelmProvider
