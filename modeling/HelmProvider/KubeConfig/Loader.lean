/-
# `toRawKubeConfigLoader`: the `kubernetes` block as client-go overrides

`toRawKubeConfigLoader` (structure_kubeconfig.go, lines 74-177) builds the loading rules
and the overrides from the provider's `kubernetes` block and hands both to
`NewNonInteractiveDeferredLoadingClientConfig`. It returns the nil interface in three
places: when `homedir.Expand` refuses `config_path`, when `rest.DefaultServerURL` refuses
`host`, and when the first element of `exec` is not a map; on a block of the types it
asserts, exactly there. Its plain type assertions panic on an attribute of the wrong type.

The function is cut along its source blocks; each block is a definition with the lemmas
later modules cite, so that no proof unfolds the whole function. `none` is the nil
interface, and `Except Panic` carries a panic out of the function.
-/

import HelmProvider.ClientGo.Clientcmd

namespace HelmProvider

open Clientcmdapi Clientcmd

/-- What the provider's code reads besides its configuration. -/
structure Env where
  /-- What `homedir.Dir()` finds: the home directory, or its failure. -/
  homeDir : Except String String
  /-- The provider's `expandStringSlice`, which is not among the sources. -/
  expandStringSlice : List Value → Except Panic (List String)
  /-- The kubeconfig files on disk. -/
  files : Files
  /-- Whether client-go can build a REST client for a config (`rest.UnversionedRESTClientFor`),
  or the error it gives. -/
  unversionedRESTClientFor : Rest.Config → Except String Unit
  /-- What `rest.InClusterConfig()` returns when client-go runs in a pod, where the service
  account token and `KUBERNETES_SERVICE_HOST` and `_PORT` exist; `none` outside a pod. -/
  inClusterConfig : Option (Except String Rest.Config) := none

/-- Lines 85-101: `config_context`, `config_context_auth_info` and `config_context_cluster`
select the context when any of them is set. -/
def contextOverrides (d : ConfigData) : Except Panic ConfigOverrides :=
  if (d.getOk "config_context").2 || (d.getOk "config_context_auth_info").2 ||
      (d.getOk "config_context_cluster").2 then do
    let o ← overrideIfOk d "config_context" Value.assertString
      (fun o s => { o with currentContext := s }) {}
    let o ← overrideIfOk d "config_context_auth_info" Value.assertString
      (fun o s => { o with context.authInfo := s }) o
    overrideIfOk d "config_context_cluster" Value.assertString
      (fun o s => { o with context.cluster := s }) o
  else pure {}

/-- Lines 78-104: with `load_config_file`, a non-empty `config_path` becomes the explicit
path of the loading rules, expanded by `homedir.Expand`; nil when it cannot be expanded. -/
def loadConfigFile (homeDir : Except String String) (d : ConfigData) :
    Except Panic (Option (ClientConfigLoadingRules × ConfigOverrides)) := do
  let load ← (d.get "load_config_file").assertBool
  if load && (d.getOk "config_path").2 then
    let configPath ← (d.getOk "config_path").1.assertString
    if configPath = "" then pure (some ({}, {}))
    else match Homedir.expand homeDir configPath with
      | .error _ => pure none
      | .ok path => do
        let o ← contextOverrides d
        pure (some ({ explicitPath := path }, o))
  else pure (some ({}, {}))

/-- Lines 107-115: `insecure`, `cluster_ca_certificate` and `client_certificate`. -/
def tlsOverrides (d : ConfigData) (o : ConfigOverrides) : Except Panic ConfigOverrides := do
  let o ← overrideIfOk d "insecure" Value.assertBool
    (fun o b => { o with clusterInfo.insecureSkipTLSVerify := b }) o
  let o ← overrideIfOk d "cluster_ca_certificate" Value.assertString
    (fun o s => { o with clusterInfo.certificateAuthorityData := s }) o
  overrideIfOk d "client_certificate" Value.assertString
    (fun o s => { o with authInfo.clientCertificateData := s }) o

/-- `defaultTLS` of lines 117-119: CA data, a client certificate or `insecure` among the
overrides built so far. -/
def overridesDefaultTLS (o : ConfigOverrides) : Bool :=
  o.clusterInfo.certificateAuthorityData ≠ "" || o.authInfo.clientCertificateData ≠ "" ||
    o.clusterInfo.insecureSkipTLSVerify

/-- Lines 116-131: the `host`, completed by `rest.DefaultServerURL` with the TLS flag of
the overrides; nil when it is refused. -/
def hostOverride (d : ConfigData) (o : ConfigOverrides) :
    Except Panic (Option ConfigOverrides) :=
  if (d.getOk "host").2 then do
    match Rest.defaultServerURL (← (d.getOk "host").1.assertString) (overridesDefaultTLS o) with
    | .error _ => return none
    | .ok host => return some { o with clusterInfo.server := host.string }
  else pure (some o)

/-- Lines 132-143: `username`, `password`, `client_key` and `token`. -/
def credentialOverrides (d : ConfigData) (o : ConfigOverrides) :
    Except Panic ConfigOverrides := do
  let o ← overrideIfOk d "username" Value.assertString
    (fun o s => { o with authInfo.username := s }) o
  let o ← overrideIfOk d "password" Value.assertString
    (fun o s => { o with authInfo.password := s }) o
  let o ← overrideIfOk d "client_key" Value.assertString
    (fun o s => { o with authInfo.clientKeyData := s }) o
  overrideIfOk d "token" Value.assertString (fun o s => { o with authInfo.token := s }) o

/-- Lines 146-154: the first element of the `exec` block as an `ExecConfig`; nil when it is
not a map. The environment variables follow the map's iteration order. -/
def parseExec (expandStringSlice : List Value → Except Panic (List String)) (v : Value) :
    Except Panic (Option ExecConfig) := do
  let first ← index0 (← v.assertList)
  match first.asMap? with
  | none => return none
  | some spec =>
    let apiVersion ← (mapIndex spec "api_version").assertString
    let command ← (mapIndex spec "command").assertString
    let args ← expandStringSlice (← (mapIndex spec "args").assertList)
    let env ← (← (mapIndex spec "env").assertMap).mapM fun (kk, vv) => do
      return ExecEnvVar.mk kk (← vv.assertString)
    return some { apiVersion, command, args, env }

/-- Lines 145-158: the `exec` block as the user's credential plugin. -/
def execOverride (expandStringSlice : List Value → Except Panic (List String))
    (d : ConfigData) (o : ConfigOverrides) : Except Panic (Option ConfigOverrides) :=
  if (d.getOk "exec").2 then do
    match ← parseExec expandStringSlice (d.getOk "exec").1 with
    | none => return none
    | some exec => return some { o with authInfo.exec := some exec }
  else pure (some o)

/-- `(*KubeConfig).toRawKubeConfigLoader`, lines 74-177, reading `k.ConfigData` and
`k.Namespace` (`ns`). The namespace defaults to `"default"`. The final `cfg == nil` test
never holds: `NewNonInteractiveDeferredLoadingClientConfig` does not return nil. -/
def toRawKubeConfigLoader (env : Env) (d : ConfigData) (ns : Option String) :
    Except Panic (Option DeferredLoadingClientConfig) := do
  let some (loader, o) ← loadConfigFile env.homeDir d | return none
  let o ← tlsOverrides d o
  let some o ← hostOverride d o | return none
  let o ← credentialOverrides d o
  let some o ← execOverride env.expandStringSlice d o | return none
  let o := { o with context.ns := ns.getD "default" }
  return some (newNonInteractiveDeferredLoadingClientConfig loader o)

/-- The TLS flag of `host` in terms of the provider block: `cluster_ca_certificate` or
`client_certificate` set to a non-empty string, or `insecure` set to true. -/
def providerDefaultTLS (d : ConfigData) : Bool :=
  d.setNonEmpty "cluster_ca_certificate" || d.setNonEmpty "client_certificate" ||
    d.setTrue "insecure"

/-- The user settings of the provider block as the overrides carry them: each string
attribute as it is set, `""` when it is unset; `exec` is the parsed plugin. -/
def blockAuthInfo (d : ConfigData) (exec : Option ExecConfig) : AuthInfo where
  clientCertificateData := d.stringAt "client_certificate"
  clientKeyData := d.stringAt "client_key"
  token := d.stringAt "token"
  username := d.stringAt "username"
  password := d.stringAt "password"
  exec := exec

/-- The cluster settings of the provider block likewise, with `server` the completed
`host`. -/
def blockCluster (d : ConfigData) (server : String) : Cluster where
  server := server
  insecureSkipTLSVerify := d.setTrue "insecure"
  certificateAuthorityData := d.stringAt "cluster_ca_certificate"

/-- The overrides `contextOverrides` builds carry no cluster or user settings. -/
theorem contextOverrides_tls {d : ConfigData} {o : ConfigOverrides}
    (h : contextOverrides d = .ok o) : o.clusterInfo = {} ∧ o.authInfo = {} := by
  unfold contextOverrides at h
  split at h
  · obtain ⟨o₁, h₁, h⟩ := bind_eq_ok.1 h
    obtain ⟨o₂, h₂, h₃⟩ := bind_eq_ok.1 h
    have frame := fun (proj : ConfigOverrides → Cluster × AuthInfo) hset₁ hset₂ hset₃ =>
      ((overrideIfOk_frame h₃ proj hset₃).trans (overrideIfOk_frame h₂ proj hset₂)).trans
        (overrideIfOk_frame h₁ proj hset₁)
    exact Prod.mk.inj (frame (fun o => (o.clusterInfo, o.authInfo))
      (fun _ _ => rfl) (fun _ _ => rfl) (fun _ _ => rfl))
  · cases h; exact ⟨rfl, rfl⟩

/-- Neither does `loadConfigFile`: it selects a file and a context only. -/
theorem loadConfigFile_tls {homeDir : Except String String} {d : ConfigData}
    {loader : ClientConfigLoadingRules} {o : ConfigOverrides}
    (h : loadConfigFile homeDir d = .ok (some (loader, o))) :
    o.clusterInfo = {} ∧ o.authInfo = {} := by
  unfold loadConfigFile at h
  obtain ⟨load, -, h⟩ := bind_eq_ok.1 h
  split at h
  · obtain ⟨path, -, h⟩ := bind_eq_ok.1 h
    split at h
    · cases h; exact ⟨rfl, rfl⟩
    split at h
    · cases h
    · obtain ⟨o', ho', h⟩ := bind_eq_ok.1 h
      cases h
      exact contextOverrides_tls ho'
  · cases h; exact ⟨rfl, rfl⟩

/-- Starting from overrides without user or cluster settings, `tlsOverrides` copies the
block's `insecure`, `cluster_ca_certificate` and `client_certificate` into them. -/
theorem tlsOverrides_eq {d : ConfigData} {o o' : ConfigOverrides}
    (h : tlsOverrides d o = .ok o') (hcluster : o.clusterInfo = {}) (hauth : o.authInfo = {}) :
    o'.clusterInfo = blockCluster d "" ∧
      o'.authInfo = { clientCertificateData := d.stringAt "client_certificate" } := by
  obtain ⟨auth, cluster, context, currentContext⟩ := o
  obtain rfl : cluster = {} := hcluster
  obtain rfl : auth = {} := hauth
  unfold tlsOverrides at h
  obtain ⟨o₁, h₁, h⟩ := bind_eq_ok.1 h
  obtain ⟨o₂, h₂, h₃⟩ := bind_eq_ok.1 h
  obtain rfl := overrideIfOk_setTrue h₁ rfl
  obtain rfl := overrideIfOk_stringAt h₂ rfl
  obtain rfl := overrideIfOk_stringAt h₃ rfl
  exact ⟨rfl, rfl⟩

/-- Hence they then carry exactly the TLS flag `providerDefaultTLS` reads off the block. -/
theorem tlsOverrides_defaultTLS {d : ConfigData} {o o' : ConfigOverrides}
    (h : tlsOverrides d o = .ok o') (hcluster : o.clusterInfo = {}) (hauth : o.authInfo = {}) :
    overridesDefaultTLS o' = providerDefaultTLS d := by
  obtain ⟨hcluster', hauth'⟩ := tlsOverrides_eq h hcluster hauth
  simp only [overridesDefaultTLS, providerDefaultTLS, hcluster', hauth', blockCluster,
    ConfigData.setNonEmpty_eq_stringAt]

theorem hostOverride_eq_some {d : ConfigData} {o o' : ConfigOverrides}
    (h : hostOverride d o = .ok (some o')) :
    (d.getOk "host").2 = false ∧ o' = o ∨
      ∃ host u, d.getOk "host" = (.string host, true) ∧
        Rest.defaultServerURL host (overridesDefaultTLS o) = .ok u ∧
        o' = { o with clusterInfo.server := u.string } := by
  unfold hostOverride at h
  rcases hkey : d.getOk "host" with ⟨v, _ | _⟩ <;> simp only [hkey] at h
  · cases h; exact .inl ⟨rfl, rfl⟩
  · obtain ⟨host, hv, hmatch⟩ := bind_eq_ok.1 h
    rw [Value.assertString_eq_ok] at hv
    subst hv
    cases hurl : Rest.defaultServerURL host (overridesDefaultTLS o) with
    | error e => simp [hurl, pure, Except.pure] at hmatch
    | ok u =>
      simp only [hurl, pure, Except.pure, Except.ok.injEq, Option.some.injEq] at hmatch
      exact .inr ⟨host, u, rfl, hurl, hmatch.symm⟩

theorem hostOverride_eq_none {d : ConfigData} {o : ConfigOverrides}
    (h : hostOverride d o = .ok none) :
    ∃ host e, d.getOk "host" = (.string host, true) ∧
      Rest.defaultServerURL host (overridesDefaultTLS o) = .error e := by
  unfold hostOverride at h
  rcases hkey : d.getOk "host" with ⟨v, _ | _⟩ <;> simp only [hkey] at h
  · cases h
  · obtain ⟨host, hv, hmatch⟩ := bind_eq_ok.1 h
    rw [Value.assertString_eq_ok] at hv
    subst hv
    cases hurl : Rest.defaultServerURL host (overridesDefaultTLS o) with
    | error e => exact ⟨host, e, rfl, hurl⟩
    | ok u => simp [hurl, pure, Except.pure] at hmatch

theorem credentialOverrides_clusterInfo {d : ConfigData} {o o' : ConfigOverrides}
    (h : credentialOverrides d o = .ok o') : o'.clusterInfo = o.clusterInfo := by
  unfold credentialOverrides at h
  obtain ⟨o₁, h₁, h⟩ := bind_eq_ok.1 h
  obtain ⟨o₂, h₂, h⟩ := bind_eq_ok.1 h
  obtain ⟨o₃, h₃, h₄⟩ := bind_eq_ok.1 h
  calc o'.clusterInfo
      = o₃.clusterInfo := overrideIfOk_frame h₄ (·.clusterInfo) (fun _ _ => rfl)
    _ = o₂.clusterInfo := overrideIfOk_frame h₃ (·.clusterInfo) (fun _ _ => rfl)
    _ = o₁.clusterInfo := overrideIfOk_frame h₂ (·.clusterInfo) (fun _ _ => rfl)
    _ = o.clusterInfo := overrideIfOk_frame h₁ (·.clusterInfo) (fun _ _ => rfl)

/-- On a user that holds only a client certificate, `credentialOverrides` copies the block's
`username`, `password`, `client_key` and `token`. -/
theorem credentialOverrides_authInfo {d : ConfigData} {o o' : ConfigOverrides} {cert : String}
    (h : credentialOverrides d o = .ok o') (hauth : o.authInfo = { clientCertificateData := cert }) :
    o'.authInfo = { blockAuthInfo d none with clientCertificateData := cert } := by
  obtain ⟨auth, cluster, context, currentContext⟩ := o
  obtain rfl : auth = _ := hauth
  unfold credentialOverrides at h
  obtain ⟨o₁, h₁, h⟩ := bind_eq_ok.1 h
  obtain ⟨o₂, h₂, h⟩ := bind_eq_ok.1 h
  obtain ⟨o₃, h₃, h₄⟩ := bind_eq_ok.1 h
  obtain rfl := overrideIfOk_stringAt h₁ rfl
  obtain rfl := overrideIfOk_stringAt h₂ rfl
  obtain rfl := overrideIfOk_stringAt h₃ rfl
  obtain rfl := overrideIfOk_stringAt h₄ rfl
  rfl

theorem parseExec_eq_none {expand : List Value → Except Panic (List String)} {v : Value}
    (h : parseExec expand v = .ok none) :
    ∃ first rest, v = .list (first :: rest) ∧ first.asMap? = none := by
  unfold parseExec at h
  obtain ⟨elems, helems, h⟩ := bind_eq_ok.1 h
  obtain ⟨first, hfirst, hmatch⟩ := bind_eq_ok.1 h
  have hv : v = .list elems := Value.assertList_eq_ok.1 helems
  cases elems with
  | nil => cases hfirst
  | cons x rest =>
    cases hfirst
    cases hmap : first.asMap? with
    | none => exact ⟨first, rest, hv, hmap⟩
    | some spec =>
      simp only [hmap] at hmatch
      repeat obtain ⟨_, -, hmatch⟩ := bind_eq_ok.1 hmatch
      cases hmatch

theorem execOverride_eq_some {expand : List Value → Except Panic (List String)}
    {d : ConfigData} {o o' : ConfigOverrides} (h : execOverride expand d o = .ok (some o')) :
    o'.clusterInfo = o.clusterInfo ∧ o'.authInfo = { o.authInfo with exec := o'.authInfo.exec } := by
  unfold execOverride at h
  split at h
  · obtain ⟨_ | exec, -, h⟩ := bind_eq_ok.1 h <;> cases h
    exact ⟨rfl, rfl⟩
  · cases h; exact ⟨rfl, rfl⟩

theorem execOverride_eq_none {expand : List Value → Except Panic (List String)}
    {d : ConfigData} {o : ConfigOverrides} (h : execOverride expand d o = .ok none) :
    ∃ first rest, d.getOk "exec" = (.list (first :: rest), true) ∧ first.asMap? = none := by
  unfold execOverride at h
  split at h
  · obtain ⟨_ | exec, hexec, h⟩ := bind_eq_ok.1 h
    · obtain ⟨first, rest, hv, hmap⟩ := parseExec_eq_none hexec
      exact ⟨first, rest, by rw [← hv, ← ‹(d.getOk "exec").2 = true›], hmap⟩
    · cases h
  · cases h

/-- Every way `toRawKubeConfigLoader` returns a loader: each block returned. -/
theorem toRawKubeConfigLoader_eq_some {env : Env} {d : ConfigData} {ns : Option String}
    {c : DeferredLoadingClientConfig} (h : toRawKubeConfigLoader env d ns = .ok (some c)) :
    ∃ loader o₁ o₂ o₃ o₄ o₅,
      loadConfigFile env.homeDir d = .ok (some (loader, o₁)) ∧
      tlsOverrides d o₁ = .ok o₂ ∧ hostOverride d o₂ = .ok (some o₃) ∧
      credentialOverrides d o₃ = .ok o₄ ∧
      execOverride env.expandStringSlice d o₄ = .ok (some o₅) ∧
      c = ⟨loader, { o₅ with context.ns := ns.getD "default" }⟩ := by
  unfold toRawKubeConfigLoader at h
  obtain ⟨_ | ⟨loader, o₁⟩, h₁, h⟩ := bind_eq_ok.1 h
  · cases h
  obtain ⟨o₂, h₂, h⟩ := bind_eq_ok.1 h
  obtain ⟨_ | o₃, h₃, h⟩ := bind_eq_ok.1 h
  · cases h
  obtain ⟨o₄, h₄, h⟩ := bind_eq_ok.1 h
  obtain ⟨_ | o₅, h₅, h⟩ := bind_eq_ok.1 h
  · cases h
  cases h
  exact ⟨loader, o₁, o₂, o₃, o₄, o₅, h₁, h₂, h₃, h₄, h₅, rfl⟩

/-- The user and cluster settings of a loader `toRawKubeConfigLoader` builds are the
block's attributes, copied as they are set. -/
theorem toRawKubeConfigLoader_overrides {env : Env} {d : ConfigData} {ns : Option String}
    {c : DeferredLoadingClientConfig} (h : toRawKubeConfigLoader env d ns = .ok (some c)) :
    c.overrides.authInfo = blockAuthInfo d c.overrides.authInfo.exec ∧
      c.overrides.clusterInfo = blockCluster d c.overrides.clusterInfo.server := by
  obtain ⟨loader, o₁, o₂, o₃, o₄, o₅, h₁, h₂, h₃, h₄, h₅, rfl⟩ :=
    toRawKubeConfigLoader_eq_some h
  obtain ⟨hcluster₂, hauth₂⟩ := tlsOverrides_eq h₂ (loadConfigFile_tls h₁).1 (loadConfigFile_tls h₁).2
  obtain ⟨server, rfl⟩ : ∃ server, o₃ = { o₂ with clusterInfo.server := server } := by
    rcases hostOverride_eq_some h₃ with ⟨-, rfl⟩ | ⟨-, u, -, -, rfl⟩
    exacts [⟨_, rfl⟩, ⟨_, rfl⟩]
  obtain ⟨hcluster₅, hauth₅⟩ := execOverride_eq_some h₅
  constructor
  · show o₅.authInfo = _
    rw [hauth₅, credentialOverrides_authInfo h₄ hauth₂]
    rfl
  · show o₅.clusterInfo = _
    rw [hcluster₅, credentialOverrides_clusterInfo h₄]
    simp only [hcluster₂, blockCluster]

theorem loadConfigFile_eq_none {homeDir : Except String String} {d : ConfigData}
    (h : loadConfigFile homeDir d = .ok none) :
    d.get "load_config_file" = .bool true ∧ ∃ path e, d.getOk "config_path" = (.string path, true) ∧
      path ≠ "" ∧ Homedir.expand homeDir path = .error e := by
  unfold loadConfigFile at h
  obtain ⟨load, hload, h⟩ := bind_eq_ok.1 h
  split at h
  · rename_i hset
    obtain ⟨rfl, hsetPath⟩ := Bool.and_eq_true_iff.1 hset
    obtain ⟨path, hpath, h⟩ := bind_eq_ok.1 h
    have hkey : d.getOk "config_path" = (.string path, true) :=
      Prod.ext (Value.assertString_eq_ok.1 hpath) hsetPath
    split at h
    · cases h
    · rename_i hne
      cases hexp : Homedir.expand homeDir path with
      | error e => exact ⟨Value.assertBool_eq_ok.1 hload, path, e, hkey, hne, hexp⟩
      | ok p =>
        simp only [hexp] at h
        obtain ⟨_, -, h⟩ := bind_eq_ok.1 h
        cases h
  · cases h

/-- The loader's `host` override is `rest.DefaultServerURL` of the attribute, under the TLS
flag of the provider block alone. -/
theorem toRawKubeConfigLoader_server {env : Env} {d : ConfigData} {ns : Option String}
    {c : DeferredLoadingClientConfig} {host : String}
    (h : toRawKubeConfigLoader env d ns = .ok (some c))
    (hhost : d.getOk "host" = (.string host, true)) :
    ∃ u, Rest.defaultServerURL host (providerDefaultTLS d) = .ok u ∧
      c.overrides.clusterInfo.server = u.string := by
  obtain ⟨loader, o₁, o₂, o₃, o₄, o₅, h₁, h₂, h₃, h₄, h₅, rfl⟩ :=
    toRawKubeConfigLoader_eq_some h
  obtain ⟨hcluster, hauth⟩ := loadConfigFile_tls h₁
  rcases hostOverride_eq_some h₃ with ⟨hunset, -⟩ | ⟨host', u, hkey, hurl, rfl⟩
  · simp [hhost] at hunset
  · rw [hhost, Prod.mk.injEq, Value.string.injEq] at hkey
    obtain ⟨rfl, -⟩ := hkey
    refine ⟨u, tlsOverrides_defaultTLS h₂ hcluster hauth ▸ hurl, ?_⟩
    rw [show o₅.clusterInfo = o₄.clusterInfo from (execOverride_eq_some h₅).1,
      credentialOverrides_clusterInfo h₄]

/-- `toRawKubeConfigLoader` returns nil only in its three nil branches: `homedir.Expand`
refuses a non-empty `config_path` read with `load_config_file`, `rest.DefaultServerURL`
refuses `host` under the block's TLS flag, or the first element of `exec` is not a map. -/
theorem toRawKubeConfigLoader_eq_none {env : Env} {d : ConfigData} {ns : Option String}
    (h : toRawKubeConfigLoader env d ns = .ok none) :
    (d.get "load_config_file" = .bool true ∧ ∃ path e,
      d.getOk "config_path" = (.string path, true) ∧ path ≠ "" ∧
        Homedir.expand env.homeDir path = .error e) ∨
    (∃ host e, d.getOk "host" = (.string host, true) ∧
      Rest.defaultServerURL host (providerDefaultTLS d) = .error e) ∨
    (∃ first rest, d.getOk "exec" = (.list (first :: rest), true) ∧ first.asMap? = none) := by
  unfold toRawKubeConfigLoader at h
  obtain ⟨_ | ⟨loader, o₁⟩, h₁, h⟩ := bind_eq_ok.1 h
  · exact .inl (loadConfigFile_eq_none h₁)
  obtain ⟨o₂, h₂, h⟩ := bind_eq_ok.1 h
  obtain ⟨_ | o₃, h₃, h⟩ := bind_eq_ok.1 h
  · obtain ⟨hcluster, hauth⟩ := loadConfigFile_tls h₁
    rw [← tlsOverrides_defaultTLS h₂ hcluster hauth]
    exact .inr (.inl (hostOverride_eq_none h₃))
  obtain ⟨o₄, -, h⟩ := bind_eq_ok.1 h
  obtain ⟨_ | o₅, h₅, h⟩ := bind_eq_ok.1 h
  · exact .inr (.inr (execOverride_eq_none h₅))
  · cases h

/-! ## Blocks of the asserted types -/

/-- The attributes `toRawKubeConfigLoader` asserts to be strings when they are set. -/
def stringAttributes : List String :=
  ["config_path", "config_context", "config_context_auth_info", "config_context_cluster",
    "cluster_ca_certificate", "client_certificate", "host", "username", "password",
    "client_key", "token"]

/-- The attributes `toRawKubeConfigLoader` reads before `exec` have the types it asserts:
`load_config_file` is a boolean, `insecure` a boolean when set, and the others strings when
set. -/
def Typed (d : ConfigData) : Prop :=
  (d.get "load_config_file").typeName = "bool" ∧
    ((d.getOk "insecure").2 = true → (d.get "insecure").typeName = "bool") ∧
    ∀ key ∈ stringAttributes, (d.getOk key).2 = true → (d.get key).typeName = "string"

instance (d : ConfigData) : Decidable (Typed d) :=
  inferInstanceAs (Decidable (_ ∧ _ ∧ _))

section Typed

variable {d : ConfigData} (htyped : Typed d)
include htyped

theorem Typed.assertBool {key : String}
    (hbool : key = "load_config_file" ∨ key = "insecure" ∧ (d.getOk key).2 = true) :
    ∃ b, (d.get key).assertBool = .ok b := by
  rcases hbool with rfl | ⟨rfl, hset⟩
  exacts [Value.assertBool_of_typeName htyped.1, Value.assertBool_of_typeName (htyped.2.1 hset)]

theorem Typed.assertString {key : String} (hkey : key ∈ stringAttributes)
    (hset : (d.getOk key).2 = true) : ∃ s, (d.get key).assertString = .ok s :=
  Value.assertString_of_typeName (htyped.2.2 key hkey hset)

theorem contextOverrides_ok : ∃ o, contextOverrides d = .ok o := by
  unfold contextOverrides
  split
  · exact bind_ok_of_ok (overrideIfOk_ok _ _ (htyped.assertString (by decide))) fun _ =>
      bind_ok_of_ok (overrideIfOk_ok _ _ (htyped.assertString (by decide))) fun _ =>
        overrideIfOk_ok _ _ (htyped.assertString (by decide))
  · exact ⟨_, rfl⟩

theorem loadConfigFile_ok (homeDir : Except String String) :
    ∃ r, loadConfigFile homeDir d = .ok r := by
  refine bind_ok_of_ok (htyped.assertBool (.inl rfl)) fun load => ?_
  split
  · rename_i hset
    refine bind_ok_of_ok (htyped.assertString (by decide) (Bool.and_eq_true_iff.1 hset).2)
      fun path => ?_
    split
    · exact ⟨_, rfl⟩
    · split
      · exact ⟨_, rfl⟩
      · exact bind_ok_of_ok (contextOverrides_ok htyped) fun _ => ⟨_, rfl⟩
  · exact ⟨_, rfl⟩

theorem tlsOverrides_ok (o : ConfigOverrides) : ∃ o', tlsOverrides d o = .ok o' :=
  bind_ok_of_ok (overrideIfOk_ok _ _ fun hset => htyped.assertBool (.inr ⟨rfl, hset⟩)) fun _ =>
    bind_ok_of_ok (overrideIfOk_ok _ _ (htyped.assertString (by decide))) fun _ =>
      overrideIfOk_ok _ _ (htyped.assertString (by decide))

theorem hostOverride_ok (o : ConfigOverrides) : ∃ r, hostOverride d o = .ok r := by
  unfold hostOverride
  split
  · rename_i hset
    exact bind_ok_of_ok (htyped.assertString (by decide) hset) fun _ => by split <;> exact ⟨_, rfl⟩
  · exact ⟨_, rfl⟩

theorem credentialOverrides_ok (o : ConfigOverrides) : ∃ o', credentialOverrides d o = .ok o' :=
  bind_ok_of_ok (overrideIfOk_ok _ _ (htyped.assertString (by decide))) fun _ =>
    bind_ok_of_ok (overrideIfOk_ok _ _ (htyped.assertString (by decide))) fun _ =>
      bind_ok_of_ok (overrideIfOk_ok _ _ (htyped.assertString (by decide))) fun _ =>
        overrideIfOk_ok _ _ (htyped.assertString (by decide))

end Typed

theorem loadConfigFile_of_expand_error {homeDir : Except String String} {d : ConfigData}
    {path e : String} (hload : d.get "load_config_file" = .bool true)
    (hpath : d.getOk "config_path" = (.string path, true)) (hne : path ≠ "")
    (hexpand : Homedir.expand homeDir path = .error e) : loadConfigFile homeDir d = .ok none := by
  have hget : d.get "config_path" = .string path := congrArg Prod.fst hpath
  simp only [loadConfigFile, hload, Value.assertBool_bool, hpath, bind, Except.bind, Bool.true_and,
    if_true]
  simp only [ConfigData.get] at hget
  simp [hget, hne, hexpand, pure, Except.pure]

theorem hostOverride_of_error {d : ConfigData} {o : ConfigOverrides} {host e : String}
    (hhost : d.getOk "host" = (.string host, true))
    (hurl : Rest.defaultServerURL host (overridesDefaultTLS o) = .error e) :
    hostOverride d o = .ok none := by
  simp [hostOverride, hhost, hurl, bind, Except.bind, pure, Except.pure]

theorem execOverride_of_not_map {expand : List Value → Except Panic (List String)}
    {d : ConfigData} {o : ConfigOverrides} {first : Value} {rest : List Value}
    (hexec : d.getOk "exec" = (.list (first :: rest), true)) (hmap : first.asMap? = none) :
    execOverride expand d o = .ok none := by
  simp [execOverride, parseExec, hexec, hmap, index0, bind, Except.bind, pure, Except.pure]

/-- On a block of the asserted types, `toRawKubeConfigLoader` returns nil in exactly its
three nil branches, whichever of them comes first. -/
theorem toRawKubeConfigLoader_eq_none_iff {env : Env} {d : ConfigData} {ns : Option String}
    (htyped : Typed d) :
    toRawKubeConfigLoader env d ns = .ok none ↔
      (d.get "load_config_file" = .bool true ∧ ∃ path e,
        d.getOk "config_path" = (.string path, true) ∧ path ≠ "" ∧
          Homedir.expand env.homeDir path = .error e) ∨
      (∃ host e, d.getOk "host" = (.string host, true) ∧
        Rest.defaultServerURL host (providerDefaultTLS d) = .error e) ∨
      (∃ first rest, d.getOk "exec" = (.list (first :: rest), true) ∧ first.asMap? = none) := by
  refine ⟨toRawKubeConfigLoader_eq_none, fun hcase => ?_⟩
  obtain ⟨_ | ⟨loader, o₁⟩, h₁⟩ := loadConfigFile_ok htyped env.homeDir
  · simp only [toRawKubeConfigLoader, h₁, bind, Except.bind]
    rfl
  rcases hcase with ⟨hload, path, e, hpath, hne, hexpand⟩ | hcase
  · cases h₁.symm.trans (loadConfigFile_of_expand_error hload hpath hne hexpand)
  obtain ⟨o₂, h₂⟩ := tlsOverrides_ok htyped o₁
  have htls : overridesDefaultTLS o₂ = providerDefaultTLS d :=
    tlsOverrides_defaultTLS h₂ (loadConfigFile_tls h₁).1 (loadConfigFile_tls h₁).2
  obtain ⟨_ | o₃, h₃⟩ := hostOverride_ok htyped o₂
  · simp only [toRawKubeConfigLoader, h₁, h₂, h₃, bind, Except.bind]
    rfl
  rcases hcase with ⟨host, e, hhost, hurl⟩ | ⟨first, rest, hexec, hmap⟩
  · cases h₃.symm.trans (hostOverride_of_error hhost (htls ▸ hurl))
  obtain ⟨o₄, h₄⟩ := credentialOverrides_ok htyped o₃
  simp only [toRawKubeConfigLoader, h₁, h₂, h₃, h₄, execOverride_of_not_map hexec hmap, bind,
    Except.bind]
  rfl

/-- A machine whose home directory is `/root` and which holds no kubeconfig file, outside a
pod; client-go can build a REST client for any config there. Its `expandStringSlice` reads
a nil element as `""`. -/
def bareEnv : Env where
  homeDir := .ok "/root"
  expandStringSlice := List.mapM fun
    | .nil => .ok ""
    | v => v.assertString
  files _ := none
  unversionedRESTClientFor _ := .ok ()

/-- A `config_path` under another user's home, which `homedir.Expand` refuses. -/
def otherUsersHome : ConfigData :=
  .ofList [("load_config_file", .bool true), ("config_path", .string "~other/.kube/config")]

theorem toRawKubeConfigLoader_other_users_home :
    Typed otherUsersHome ∧ toRawKubeConfigLoader bareEnv otherUsersHome none = .ok none :=
  have htyped : Typed otherUsersHome := by decide
  ⟨htyped, (toRawKubeConfigLoader_eq_none_iff htyped).2 (.inl ⟨rfl, _, _, rfl, by decide, rfl⟩)⟩

/-- The block's defaults: the kubeconfig at `~/.kube/config`, nothing overridden. -/
def defaultBlock : ConfigData :=
  .ofList [("load_config_file", .bool true), ("config_path", .string "~/.kube/config")]

/-- The loader built for it on `bareEnv`. -/
def defaultBlockLoader : DeferredLoadingClientConfig :=
  ⟨{ explicitPath := "/root/.kube/config" }, { context := { ns := "default" } }⟩

end HelmProvider
