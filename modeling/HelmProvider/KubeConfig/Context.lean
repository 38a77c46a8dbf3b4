/-
# The context a loader selects

With `load_config_file` and a non-empty `config_path`, `toRawKubeConfigLoader` names the
kubeconfig file for the loader and copies `config_context`, `config_context_auth_info` and
`config_context_cluster` into the overrides (lines 78-105): the current context, and the
user and the cluster of the context. The blocks after it write user and cluster settings
only, so the loader keeps that selection. client-go then requires each name to be in the
file (`KubeConfig.Credentials`).

Without a file the three attributes are not read at all: two blocks that differ only in
them build the same loader, so the same REST config, error or panic.
-/

import HelmProvider.KubeConfig.Loader

namespace HelmProvider

open Clientcmdapi Clientcmd

/-- Whether the block loads a kubeconfig file: `load_config_file` is true and `config_path`
is set to a non-empty path. -/
def loadsConfigFile (d : ConfigData) : Bool :=
  match d.get "load_config_file" with
  | .bool true => d.stringAt "config_path" ≠ ""
  | _ => false

section Frame

variable {β : Type} (proj : ConfigOverrides → β) {d : ConfigData} {o o' : ConfigOverrides}

end Frame

/-- Two blocks that differ at most in the three attributes that select a context. -/
def AgreeOffContext (d d' : ConfigData) : Prop :=
  ∀ key, key ∉ ["config_context", "config_context_auth_info", "config_context_cluster"] →
    d.getOk key = d'.getOk key

section AgreeOffContext

variable {d d' : ConfigData}

theorem tlsOverrides_congr (hagree : AgreeOffContext d d') (o : ConfigOverrides) :
    tlsOverrides d o = tlsOverrides d' o := by
  simp only [tlsOverrides, overrideIfOk_congr (hagree "insecure" (by decide)),
    overrideIfOk_congr (hagree "cluster_ca_certificate" (by decide)),
    overrideIfOk_congr (hagree "client_certificate" (by decide))]

theorem hostOverride_congr (hagree : AgreeOffContext d d') (o : ConfigOverrides) :
    hostOverride d o = hostOverride d' o := by
  simp only [hostOverride, hagree "host" (by decide)]

theorem credentialOverrides_congr (hagree : AgreeOffContext d d') (o : ConfigOverrides) :
    credentialOverrides d o = credentialOverrides d' o := by
  simp only [credentialOverrides, overrideIfOk_congr (hagree "username" (by decide)),
    overrideIfOk_congr (hagree "password" (by decide)),
    overrideIfOk_congr (hagree "client_key" (by decide)),
    overrideIfOk_congr (hagree "token" (by decide))]

theorem execOverride_congr {expand : List Value → Except Panic (List String)}
    (hagree : AgreeOffContext d d') (o : ConfigOverrides) :
    execOverride expand d o = execOverride expand d' o := by
  simp only [execOverride, hagree "exec" (by decide)]

/-- Without a file `loadConfigFile` never reaches `contextOverrides`, the one block that
reads the three attributes. -/
theorem loadConfigFile_congr (hagree : AgreeOffContext d d') (hno : loadsConfigFile d = false)
    (homeDir : Except String String) : loadConfigFile homeDir d = loadConfigFile homeDir d' := by
  have hload : d.get "load_config_file" = d'.get "load_config_file" :=
    congrArg Prod.fst (hagree _ (by decide))
  unfold loadConfigFile
  rw [← hload, ← hagree "config_path" (by decide)]
  cases hl : (d.get "load_config_file").assertBool with
  | error p => rfl
  | ok load =>
    dsimp only [bind, Except.bind]
    split
    · rename_i hset
      cases hp : (d.getOk "config_path").1.assertString with
      | error p => rfl
      | ok path =>
        dsimp only
        split
        · rfl
        · rename_i hpath
          -- a non-empty path with `load_config_file`: the block loads a file
          obtain ⟨rfl, hsetPath⟩ := Bool.and_eq_true_iff.1 hset
          have hat : d.stringAt "config_path" = path :=
            ConfigData.stringOr_of_string (Prod.ext (Value.assertString_eq_ok.1 hp) hsetPath)
          rw [Value.assertBool_eq_ok] at hl
          simp [loadsConfigFile, hl, hat, hpath] at hno
    · rfl

/-- Without a kubeconfig file, `config_context`, `config_context_auth_info` and
`config_context_cluster` are never read: two blocks that differ only in them build the same
loader, and fail or panic alike. -/
theorem toRawKubeConfigLoader_ignores_context {env : Env} {ns : Option String}
    (hagree : AgreeOffContext d d') (hno : loadsConfigFile d = false) :
    toRawKubeConfigLoader env d ns = toRawKubeConfigLoader env d' ns := by
  simp only [toRawKubeConfigLoader, loadConfigFile_congr hagree hno, tlsOverrides_congr hagree,
    hostOverride_congr hagree, credentialOverrides_congr hagree, execOverride_congr hagree]

end AgreeOffContext

/-- A block without kubeconfig file, with an `https` host. -/
def noContextData : ConfigData :=
  .ofList [("load_config_file", .bool false), ("host", .string "https://example.com")]

/-- The same block naming a context. -/
def strayContextData : ConfigData :=
  ⟨fun key => if key = "config_context" then (.string "prod", true) else noContextData.getOk key⟩

theorem strayContext_agree : AgreeOffContext strayContextData noContextData := fun key hkey =>
  if_neg fun h : key = "config_context" => hkey (h ▸ List.mem_cons_self _ _)

theorem toRawKubeConfigLoader_ignores_strayContext :
    AgreeOffContext strayContextData noContextData ∧ loadsConfigFile strayContextData = false ∧
      toRawKubeConfigLoader bareEnv strayContextData none =
        toRawKubeConfigLoader bareEnv noContextData none :=
  ⟨strayContext_agree, rfl, toRawKubeConfigLoader_ignores_context strayContext_agree rfl⟩

end HelmProvider
