/-
# What the REST config carries besides its address

`toRawKubeConfigLoader` copies the provider block's credentials, CA data and `insecure`
flag into the overrides as they are set, `""` and `false` when unset (lines 107-143). The
deferred loader reads the kubeconfig only later, and client-go then merges the overrides
over the user and the cluster the file selects: a non-empty string of the block replaces
the file's, an empty or unset one leaves it, and `insecure = true` without CA data in the
block also drops the file's CA data. client-go reads these credentials only when the
address is `https`. Over `http` the REST config holds the address alone, so that neither
the block's credentials nor the file's reach it. A configuration whose merged cluster is
empty gives, in a pod, the in-cluster configuration, which keeps only the block's token.
-/

import HelmProvider.KubeConfig.ServerUrl
import HelmProvider.KubeConfig.Context

namespace HelmProvider

open Clientcmdapi Clientcmd
open Clientcmd.DirectClientConfig (withCredentials mergeClusterInfo)

namespace KubeConfig

variable {env : Env} {k k' : KubeConfig}

end KubeConfig

namespace KubeConfig

variable {env : Env} {k k' : KubeConfig}

end KubeConfig

/-- client-go's refusal of a REST config that trusts a CA and skips verification at once
(`transport.TLSConfigFor`), as `rest.UnversionedRESTClientFor` meets it. -/
def Env.RefusesInsecureCA (env : Env) : Prop :=
  ∀ config : Rest.Config, config.insecure = true → config.caData ≠ "" →
    ∃ e, env.unversionedRESTClientFor config = .error e

namespace KubeConfig

variable {env : Env} {k k' : KubeConfig}

/-- With `insecure = true` and a non-empty `cluster_ca_certificate` in the block, a REST
config `ToRESTConfig` returns over `https` trusts that CA and skips verification at once:
client-go keeps a CA the override gives even when it is insecure. client-go refuses to
build a client for such a config, and `ToDiscoveryClient` and `ToRESTMapper` then panic
instead of returning an error. -/
theorem toDiscoveryClient_panics_of_insecure_ca {config : Rest.Config}
    (hrefuses : env.RefusesInsecureCA) (hinsecure : k.configData.setTrue "insecure" = true)
    (hca : k.configData.stringAt "cluster_ca_certificate" ≠ "")
    (hrest : k.toRESTConfig env = .ok (.ok config, k'))
    (htls : Rest.isConfigTransportTLS { host := config.host }) :
    (∃ p, k.toDiscoveryClient env = .error p) ∧ ∃ p, k.toRESTMapper env = .error p := by
  obtain ⟨c, hraw, hconfig⟩ := toRESTConfig_eq_ok hrest
  obtain ⟨env', hbuilt⟩ := ToRawKubeConfigLoader_built hraw
  have hoverride := (toRawKubeConfigLoader_overrides hbuilt).2
  have hinsecureOverride : c.overrides.clusterInfo.insecureSkipTLSVerify = true :=
    (congrArg Cluster.insecureSkipTLSVerify hoverride).trans hinsecure
  have hcaOverride : c.overrides.clusterInfo.certificateAuthorityData =
      k.configData.stringAt "cluster_ca_certificate" :=
    congrArg Cluster.certificateAuthorityData hoverride
  obtain ⟨file, -, h⟩ := DeferredLoadingClientConfig.clientConfig_of_clusterInfo hconfig.symm
    fun hempty => by simp [hempty] at hinsecureOverride
  obtain ⟨_, _, -, hm, -, -, hconfig⟩ := DirectClientConfig.clientConfig_eq_ok h
  obtain ⟨cluster, -, rfl⟩ := DirectClientConfig.lookupMerged_eq_ok hm
  rw [if_pos htls] at hconfig
  -- an insecure override that brings its own CA is merged without clearing any CA
  have hmerged : mergeClusterInfo c.overrides.clusterInfo cluster =
      Cluster.merge cluster c.overrides.clusterInfo :=
    if_neg fun h => hca (hcaOverride.symm.trans h.2)
  have hinsecure' : config.insecure = true := by
    rw [hconfig]
    simp [withCredentials, hmerged, Cluster.merge, hinsecureOverride]
  have hca' : config.caData ≠ "" := by
    rw [hconfig]
    simpa [withCredentials, hmerged, Cluster.merge, hcaOverride, overwrite_of_ne_empty _ hca]
      using hca
  obtain ⟨e, he⟩ := hrefuses { config with burst := 100 } hinsecure' hca'
  have hdiscovery : k.toDiscoveryClient env = .error ⟨e⟩ := by
    rw [toDiscoveryClient_of_config hrest, newDiscoveryClientForConfigOrDie, he]
    rfl
  exact ⟨⟨_, hdiscovery⟩, _, toRESTMapper_of_panic hdiscovery⟩

end KubeConfig

/-- `bareEnv`, where client-go refuses a REST config with CA data and the insecure flag. -/
def strictEnv : Env :=
  { bareEnv with
    unversionedRESTClientFor := fun config =>
      if config.insecure ∧ config.caData ≠ "" then
        .error "specifying a root certificates file with the insecure flag is not allowed"
      else .ok () }

theorem strictEnv_refuses : strictEnv.RefusesInsecureCA :=
  fun _ hinsecure hca => ⟨_, if_pos ⟨hinsecure, hca⟩⟩

/-- A block that skips verification and gives a CA for an `https` host behind a proxy path,
as Rancher serves clusters, with no kubeconfig. -/
def insecureCAData : ConfigData :=
  .ofList [("load_config_file", .bool false),
    ("host", .string "https://rancher.example.com/k8s/clusters/c-abcde"),
    ("insecure", .bool true), ("cluster_ca_certificate", .string "CA")]

/-- The loader built for it. -/
def insecureCALoader : DeferredLoadingClientConfig :=
  ⟨{},
    { clusterInfo := { server := "https://rancher.example.com/k8s/clusters/c-abcde"
                       insecureSkipTLSVerify := true
                       certificateAuthorityData := "CA" }
      context := { ns := "default" } }⟩

theorem insecureCA_built :
    toRawKubeConfigLoader strictEnv insecureCAData none = .ok (some insecureCALoader) := by
  decide

/-- The REST config for it: the CA and the insecure flag at once. -/
def insecureCARESTConfig : Rest.Config :=
  { host := "https://rancher.example.com/k8s/clusters/c-abcde", insecure := true, caData := "CA" }

theorem insecureCA_toRESTConfig :
    (KubeConfig.new insecureCAData none).toRESTConfig strictEnv =
      .ok (.ok insecureCARESTConfig,
        (KubeConfig.new insecureCAData none).store _ _ insecureCA_built) := by
  rw [KubeConfig.toRESTConfig, @KubeConfig.ToRawKubeConfigLoader_of_uncached strictEnv
    (.new insecureCAData none) _ rfl insecureCA_built]
  rfl

theorem toDiscoveryClient_panics_on_insecureCA :
    strictEnv.RefusesInsecureCA ∧ insecureCAData.setTrue "insecure" = true ∧
      insecureCAData.stringAt "cluster_ca_certificate" ≠ "" ∧
      Rest.isConfigTransportTLS { host := insecureCARESTConfig.host } ∧
      (∃ p, (KubeConfig.new insecureCAData none).toDiscoveryClient strictEnv = .error p) ∧
      ∃ p, (KubeConfig.new insecureCAData none).toRESTMapper strictEnv = .error p :=
  ⟨strictEnv_refuses, rfl, by decide, by decide,
    @KubeConfig.toDiscoveryClient_panics_of_insecure_ca strictEnv (.new insecureCAData none) _
      insecureCARESTConfig strictEnv_refuses rfl (by decide) insecureCA_toRESTConfig
      (by decide)⟩

end HelmProvider
