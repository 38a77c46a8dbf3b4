import HelmProvider.Go
import HelmProvider.NetUrl
import HelmProvider.ClientGo.Rest
import HelmProvider.ClientGo.Clientcmd
import HelmProvider.KubeConfig.Loader
import HelmProvider.KubeConfig.Context
import HelmProvider.KubeConfig.Getter
import HelmProvider.KubeConfig.Interleaving
import HelmProvider.KubeConfig.ServerUrl
import HelmProvider.KubeConfig.Credentials
import HelmProvider.Provider.Env
import HelmProvider.Provider.Tls
import HelmProvider.Provider.BuildMeta
