/-
# `KubeConfig`: the provider's `RESTClientGetter`

`KubeConfig` implements the four methods downstream Kubernetes tooling calls
(structure_kubeconfig.go, lines 21-72). `ToRawKubeConfigLoader` builds the loader once and
keeps it in `clientConfig`; the other three call it and work on its result. This module
follows one goroutine through those calls; the lock matters only between goroutines and
is the subject of `Interleaving`.

`ToRESTConfig` calls `ClientConfig()` on whatever `ToRawKubeConfigLoader` returns. When
`toRawKubeConfigLoader` returned nil, that is a method call through a nil interface, which
panics: the nil never becomes an error value that the callers' `err != nil` checks could
see.
-/

import HelmProvider.KubeConfig.Loader

namespace HelmProvider

open Clientcmdapi Clientcmd

/-- `KubeConfig` (lines 21-27) as one goroutine sees it; `ns` is `Namespace`. Only
`ToRawKubeConfigLoader` writes `clientConfig`, with a loader `toRawKubeConfigLoader` built
from this configuration, and the structure keeps that fact. -/
structure KubeConfig where
  configData : ConfigData
  ns : Option String
  clientConfig : Option DeferredLoadingClientConfig
  cached : ∀ c, clientConfig = some c →
    ∃ env, toRawKubeConfigLoader env configData ns = .ok (some c)

/-- The discovery client `ToDiscoveryClient` returns, a memory cache in front of
`discovery.NewDiscoveryClientForConfigOrDie(config)`: the REST config it talks through. -/
structure CachedDiscoveryClient where
  config : Rest.Config
  deriving DecidableEq, Repr

/-- The mapper `ToRESTMapper` returns: a short-name expander over a deferred discovery
mapper, both reading the same discovery client. -/
structure ShortcutExpander where
  discoveryClient : CachedDiscoveryClient
  deriving DecidableEq, Repr

/-- `discovery.NewDiscoveryClientForConfigOrDie`: panics with the error of building the
REST client. -/
def newDiscoveryClientForConfigOrDie (env : Env) (config : Rest.Config) :
    Except Panic CachedDiscoveryClient :=
  match env.unversionedRESTClientFor config with
  | .ok () => .ok ⟨config⟩
  | .error e => .error ⟨e⟩

namespace KubeConfig

/-- A `KubeConfig` as the provider creates it, with no loader yet. -/
def new (configData : ConfigData) (ns : Option String) : KubeConfig :=
  ⟨configData, ns, none, fun _ hnone => nomatch hnone⟩

/-- Storing the construction's result: a non-nil result is a loader built from this
configuration, and a nil one leaves `clientConfig` nil. -/
def store (k : KubeConfig) (env : Env) (r : Option DeferredLoadingClientConfig)
    (hbuilt : toRawKubeConfigLoader env k.configData k.ns = .ok r) : KubeConfig :=
  ⟨k.configData, k.ns, r, fun _ hc => ⟨env, hc ▸ hbuilt⟩⟩

/-- `(*KubeConfig).ToRawKubeConfigLoader` (lines 61-72) in one goroutine: the stored loader,
or the result of `toRawKubeConfigLoader`, stored and returned. A panic of the construction
leaves through the deferred unlock and stores nothing. -/
def ToRawKubeConfigLoader (env : Env) (k : KubeConfig) :
    Except Panic (Option DeferredLoadingClientConfig × KubeConfig) :=
  match k.clientConfig with
  | some c => .ok (some c, k)
  | none =>
    match hbuilt : toRawKubeConfigLoader env k.configData k.ns with
    | .ok r => .ok (r, k.store env r hbuilt)
    | .error p => .error p

/-- `(*KubeConfig).ToRESTConfig` (lines 29-32): `ClientConfig()` on the loader, nil or not.
Go's `ToRESTConfig`, `ToDiscoveryClient` and `ToRESTMapper` are `toRESTConfig`,
`toDiscoveryClient` and `toRESTMapper`; only `ToRawKubeConfigLoader` keeps its Go name, to
tell it from the unexported `toRawKubeConfigLoader`. -/
def toRESTConfig (env : Env) (k : KubeConfig) :
    Except Panic (Except String Rest.Config × KubeConfig) := do
  let (loader, k) ← k.ToRawKubeConfigLoader env
  match loader with
  | none => throw nilDereference
  | some c => return (c.clientConfig env.files env.inClusterConfig, k)

/-- `(*KubeConfig).ToDiscoveryClient` (lines 34-46): the REST config with `Burst` 100. -/
def toDiscoveryClient (env : Env) (k : KubeConfig) :
    Except Panic (Except String CachedDiscoveryClient × KubeConfig) := do
  let (config, k) ← k.toRESTConfig env
  match config with
  | .error err => return (.error err, k)
  | .ok config =>
    return (.ok (← newDiscoveryClientForConfigOrDie env { config with burst := 100 }), k)

/-- `(*KubeConfig).ToRESTMapper` (lines 48-58). -/
def toRESTMapper (env : Env) (k : KubeConfig) :
    Except Panic (Except String ShortcutExpander × KubeConfig) := do
  let (discoveryClient, k) ← k.toDiscoveryClient env
  match discoveryClient with
  | .error err => return (.error err, k)
  | .ok discoveryClient => return (.ok ⟨discoveryClient⟩, k)

variable {env : Env} {k k' : KubeConfig}

theorem ToRawKubeConfigLoader_of_cached {c : DeferredLoadingClientConfig}
    (hcached : k.clientConfig = some c) : k.ToRawKubeConfigLoader env = .ok (some c, k) := by
  simp [ToRawKubeConfigLoader, hcached]

theorem ToRawKubeConfigLoader_of_uncached {r : Option DeferredLoadingClientConfig}
    (hnone : k.clientConfig = none) (hbuilt : toRawKubeConfigLoader env k.configData k.ns = .ok r) :
    k.ToRawKubeConfigLoader env = .ok (r, k.store env r hbuilt) := by
  unfold ToRawKubeConfigLoader
  split
  · simp_all
  · split
    · rename_i r' hr'
      obtain rfl : r' = r := Except.ok.inj (hr'.symm.trans hbuilt)
      rfl
    · simp_all

theorem ToRawKubeConfigLoader_of_panic {p : Panic} (hnone : k.clientConfig = none)
    (hpanic : toRawKubeConfigLoader env k.configData k.ns = .error p) :
    k.ToRawKubeConfigLoader env = .error p := by
  unfold ToRawKubeConfigLoader
  split
  · simp_all
  · split
    · simp_all
    · rename_i p' hp'
      rw [Except.error.inj (hp'.symm.trans hpanic)]

/-- `ToRawKubeConfigLoader` returns what it leaves stored, and keeps the configuration. -/
theorem ToRawKubeConfigLoader_returns_stored {r : Option DeferredLoadingClientConfig}
    (h : k.ToRawKubeConfigLoader env = .ok (r, k')) :
    k'.clientConfig = r ∧ k'.configData = k.configData ∧ k'.ns = k.ns := by
  unfold ToRawKubeConfigLoader at h
  split at h
  · cases h; exact ⟨‹_›, rfl, rfl⟩
  · split at h
    · cases h; exact ⟨rfl, rfl, rfl⟩
    · cases h

/-- A loader `ToRawKubeConfigLoader` returns was built from the configuration. -/
theorem ToRawKubeConfigLoader_built {c : DeferredLoadingClientConfig}
    (h : k.ToRawKubeConfigLoader env = .ok (some c, k')) :
    ∃ env', toRawKubeConfigLoader env' k.configData k.ns = .ok (some c) := by
  obtain ⟨hstored, hdata, hns⟩ := ToRawKubeConfigLoader_returns_stored h
  rw [← hdata, ← hns]
  exact k'.cached c hstored

/-- Whatever `ToRESTConfig` returns is `ClientConfig()` of the stored loader. -/
theorem toRESTConfig_eq_ok {r : Except String Rest.Config} (h : k.toRESTConfig env = .ok (r, k')) :
    ∃ c, k.ToRawKubeConfigLoader env = .ok (some c, k') ∧
      r = c.clientConfig env.files env.inClusterConfig := by
  unfold toRESTConfig at h
  obtain ⟨⟨_ | c, k''⟩, hraw, h⟩ := bind_eq_ok.1 h
  · cases h
  · cases h; exact ⟨c, hraw, rfl⟩

/-- After a REST config, `ToDiscoveryClient` is `NewDiscoveryClientForConfigOrDie` of it with
`Burst` 100: the client over it, or the panic of building one. -/
theorem toDiscoveryClient_of_config {config : Rest.Config}
    (hrest : k.toRESTConfig env = .ok (.ok config, k')) :
    k.toDiscoveryClient env =
      (newDiscoveryClientForConfigOrDie env { config with burst := 100 }).map
        fun client => (.ok client, k') := by
  rw [toDiscoveryClient, hrest]
  rfl

/-- A panic of `ToDiscoveryClient` leaves `ToRESTMapper` as it is. -/
theorem toRESTMapper_of_panic {p : Panic} (h : k.toDiscoveryClient env = .error p) :
    k.toRESTMapper env = .error p := by
  simp only [toRESTMapper, h]
  rfl

theorem toRESTConfig_other_users_home_panics (env : Env) :
    (new otherUsersHome (some "default")).toRESTConfig env = .error nilDereference :=
  rfl

end KubeConfig

end HelmProvider
