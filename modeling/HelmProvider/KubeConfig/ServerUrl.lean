/-
# The server address of the REST config

When `host` is set, `toRawKubeConfigLoader` completes it with `rest.DefaultServerURL`
itself, because client-go applies overrides after its own defaulting of the host
(lines 116-131). The TLS flag it passes is read off the overrides built so far: the
provider block's `cluster_ca_certificate`, `client_certificate` and `insecure`. The
kubeconfig file is not read at that point (the loader is deferred), so CA data or a
client certificate that only the file carries cannot make a bare host `https`.

This module shows that the REST config `ToRESTConfig` returns has exactly that address,
as client-go's `ClientConfig` reads it back, on every configuration and every kubeconfig.
TLS material in the block makes a bare host `https`; a kubeconfig with TLS material leaves
it `http`, as the configuration exhibited below shows. With an `http` address client-go
leaves out the file's credentials and CA altogether (`KubeConfig.Credentials`).

Without `host` the address is the server of the cluster the kubeconfig selects, which must
name one; only an empty configuration in a pod takes the in-cluster address.
-/

import HelmProvider.KubeConfig.Getter

namespace HelmProvider

open Clientcmdapi Clientcmd

namespace KubeConfig

variable {env : Env} {k k' : KubeConfig}

/-- With `host` set, the address of a REST config `ToRESTConfig` returns is
`rest.DefaultServerURL` of it under the block's TLS flag, after `stripQuery`. -/
theorem toRESTConfig_server {config : Rest.Config} {host : String}
    (hhost : k.configData.getOk "host" = (.string host, true))
    (hrest : k.toRESTConfig env = .ok (.ok config, k')) :
    ∃ u, Rest.defaultServerURL host (providerDefaultTLS k.configData) = .ok u ∧
      config.host = stripQuery u.string := by
  obtain ⟨c, hraw, hconfig⟩ := toRESTConfig_eq_ok hrest
  obtain ⟨env', hbuilt⟩ := ToRawKubeConfigLoader_built hraw
  obtain ⟨u, hurl, hserver⟩ := toRawKubeConfigLoader_server hbuilt hhost
  have hnonempty : c.overrides.clusterInfo.server ≠ "" :=
    hserver ▸ Url.URL.string_ne_empty (Rest.defaultServerURL_scheme_ne_empty hurl)
  refine ⟨u, hurl, ?_⟩
  rw [DeferredLoadingClientConfig.clientConfig_host hconfig.symm hnonempty, hserver]

/-- With `host` set, the REST config `ToRESTConfig` returns has as host
`rest.DefaultServerURL` of that host under the TLS flag of the provider block alone,
whatever the kubeconfig file holds, as client-go's `stripQuery` leaves it: unchanged when
the address has no fragment and an empty or `/` path, which a bare host always has. -/
theorem toRESTConfig_host {config : Rest.Config} {host : String}
    (hhost : k.configData.getOk "host" = (.string host, true))
    (hrest : k.toRESTConfig env = .ok (.ok config, k')) :
    ∃ u, Rest.defaultServerURL host (providerDefaultTLS k.configData) = .ok u ∧
      config.host = stripQuery u.string ∧
      ((∀ v, Url.parse host = .ok v → v.scheme = "" ∨ v.host = "") →
        u.path = "" ∨ u.path = "/") ∧
      (u.fragment = "" → (u.path = "" ∨ u.path = "/") → config.host = u.string) := by
  obtain ⟨u, hurl, hstripped⟩ := toRESTConfig_server hhost hrest
  exact ⟨u, hurl, hstripped, fun hbare => Rest.defaultServerURL_path_of_bare hbare hurl,
    fun hfragment hpath => hstripped.trans (stripQuery_of_defaultServerURL hurl hfragment hpath)⟩

/-- With TLS material in the provider block (`cluster_ca_certificate` or
`client_certificate` set non-empty, or `insecure` set to true), a `host` that `url.Parse`
does not read with both a scheme and a host part gets an `https` address. -/
theorem toRESTConfig_https_of_tls {config : Rest.Config} {host : String}
    (hhost : k.configData.getOk "host" = (.string host, true))
    (hbare : ∀ v, Url.parse host = .ok v → v.scheme = "" ∨ v.host = "")
    (htls : providerDefaultTLS k.configData = true)
    (hrest : k.toRESTConfig env = .ok (.ok config, k')) :
    ∃ u, Rest.defaultServerURL host true = .ok u ∧ u.scheme = "https" ∧
      config.host = stripQuery u.string := by
  obtain ⟨u, hurl, hstripped⟩ := toRESTConfig_server hhost hrest
  rw [htls] at hurl
  exact ⟨u, hurl, Rest.defaultServerURL_scheme_of_bare hbare hurl, hstripped⟩

end KubeConfig

/-- The TLS flag as read off the merged configuration: CA data of the selected cluster, a
client certificate of the selected user, or `insecure`, each from the override when it
sets one and from the loaded kubeconfig otherwise. -/
def mergedDefaultTLS (files : Files) (c : DeferredLoadingClientConfig) : Except String Bool := do
  let config ← c.loader.load files
  let cluster ← (DirectClientConfig.getCluster ⟨config, c.overrides⟩).mapError ConfigError.text
  let authInfo ← (DirectClientConfig.getAuthInfo ⟨config, c.overrides⟩).mapError ConfigError.text
  return cluster.certificateAuthorityData ≠ "" || authInfo.clientCertificateData ≠ "" ||
    cluster.insecureSkipTLSVerify

/-- A bare `host` with a kubeconfig whose selected cluster has a CA and whose user has a
client certificate; the provider block sets no TLS material. -/
def fileTLSData : ConfigData :=
  .ofList [("load_config_file", .bool true), ("config_path", .string "/kube/config"),
    ("host", .string "example.com")]

/-- The kubeconfig at `/kube/config`. -/
def fileTLSConfig : Clientcmdapi.Config where
  clusters := [("prod", { server := "https://prod.example.com:6443"
                          certificateAuthorityData := "CA" })]
  authInfos := [("admin", { clientCertificateData := "CERT", clientKeyData := "KEY" })]
  contexts := [("prod", { cluster := "prod", authInfo := "admin" })]
  currentContext := "prod"

/-- The environment holding that file. -/
def fileTLSEnv : Env :=
  { bareEnv with files := fun path => if path = "/kube/config" then some fileTLSConfig else none }

/-- The loader `toRawKubeConfigLoader` builds for it: the file, and the host completed
behind `http://`. -/
def fileTLSLoader : DeferredLoadingClientConfig :=
  ⟨{ explicitPath := "/kube/config" },
    { clusterInfo := { server := "http://example.com" }, context := { ns := "default" } }⟩

theorem fileTLS_built :
    toRawKubeConfigLoader fileTLSEnv fileTLSData none = .ok (some fileTLSLoader) := by
  decide

/-- `ToRESTConfig` on it: the address `http://example.com`, and nothing else set. -/
theorem fileTLS_toRESTConfig :
    (KubeConfig.new fileTLSData none).toRESTConfig fileTLSEnv =
      .ok (.ok { host := "http://example.com" },
        (KubeConfig.new fileTLSData none).store _ _ fileTLS_built) := by
  rw [KubeConfig.toRESTConfig, KubeConfig.ToRawKubeConfigLoader_of_uncached rfl fileTLS_built]
  rfl

/-- The address on that configuration is the provider block's `http` one. -/
theorem toRESTConfig_host_of_fileTLS :
    fileTLSData.getOk "host" = (.string "example.com", true) ∧
      ∃ u, Rest.defaultServerURL "example.com" (providerDefaultTLS fileTLSData) = .ok u ∧
        "http://example.com" = stripQuery u.string ∧
        ((∀ v, Url.parse "example.com" = .ok v → v.scheme = "" ∨ v.host = "") →
          u.path = "" ∨ u.path = "/") ∧
        (u.fragment = "" → (u.path = "" ∨ u.path = "/") → "http://example.com" = u.string) :=
  ⟨rfl, @KubeConfig.toRESTConfig_host fileTLSEnv (.new fileTLSData none) _
    { host := "http://example.com" } "example.com" rfl fileTLS_toRESTConfig⟩

/-- The merged configuration carries TLS material, under which the bare host would be
`https://example.com`, yet `ToRESTConfig` returns `http://example.com`, and with it none
of the file's credentials. -/
theorem toRESTConfig_host_ignores_kubeconfig_tls :
    ∃ config k' c u,
      (KubeConfig.new fileTLSData none).toRESTConfig fileTLSEnv = .ok (.ok config, k') ∧
      k'.clientConfig = some c ∧ mergedDefaultTLS fileTLSEnv.files c = .ok true ∧
      Rest.defaultServerURL "example.com" true = .ok u ∧ config.host ≠ u.string :=
  ⟨_, _, fileTLSLoader, { scheme := "https", host := "example.com" }, fileTLS_toRESTConfig, rfl,
    by decide, by decide, by decide⟩

/-- A bare `host` with a client certificate and its key in the block, and no kubeconfig. -/
def certHostData : ConfigData :=
  .ofList [("load_config_file", .bool false), ("host", .string "example.com"),
    ("client_certificate", .string "CERT"), ("client_key", .string "KEY")]

/-- The loader built for it: the host completed behind `https://`. -/
def certHostLoader : DeferredLoadingClientConfig :=
  ⟨{},
    { authInfo := { clientCertificateData := "CERT", clientKeyData := "KEY" },
      clusterInfo := { server := "https://example.com" }, context := { ns := "default" } }⟩

theorem certHost_built :
    toRawKubeConfigLoader bareEnv certHostData none = .ok (some certHostLoader) := by
  decide

/-- `ToRESTConfig` on it: the `https` address, with the certificate and its key. -/
theorem certHost_toRESTConfig :
    (KubeConfig.new certHostData none).toRESTConfig bareEnv =
      .ok (.ok { host := "https://example.com", certData := "CERT", keyData := "KEY" },
        (KubeConfig.new certHostData none).store _ _ certHost_built) := by
  rw [KubeConfig.toRESTConfig, @KubeConfig.ToRawKubeConfigLoader_of_uncached bareEnv
    (.new certHostData none) _ rfl certHost_built]
  rfl

/-- `example.com` has no scheme for `url.Parse`: it is read as a path. -/
theorem parse_example_bare :
    ∀ v, Url.parse "example.com" = .ok v → v.scheme = "" ∨ v.host = "" := fun v h => by
  rw [show Url.parse "example.com" = .ok { path := "example.com" } by decide] at h
  cases h
  exact .inl rfl

theorem toRESTConfig_https_of_certHost :
    certHostData.getOk "host" = (.string "example.com", true) ∧
      providerDefaultTLS certHostData = true ∧
      ∃ u, Rest.defaultServerURL "example.com" true = .ok u ∧ u.scheme = "https" ∧
        "https://example.com" = stripQuery u.string :=
  ⟨rfl, rfl, @KubeConfig.toRESTConfig_https_of_tls bareEnv (.new certHostData none) _
    { host := "https://example.com", certData := "CERT", keyData := "KEY" } "example.com" rfl
    parse_example_bare rfl certHost_toRESTConfig⟩

namespace KubeConfig

variable {env : Env} {k k' : KubeConfig}

end KubeConfig

end HelmProvider
