import SpotRebalance.Text.Base64
import SpotRebalance.Text.Quoted
import SpotRebalance.Uri
import SpotRebalance.WireFormat

/-! # Kubeconfig files

A kubeconfig file names clusters and contexts. The **access** to a cluster is chosen by a context,
the one asked for or else the current one: its cluster gives the address of the API server, and the
context the namespace to use by default. A user that is not there does not matter. A cluster may
also name a certificate authority, in the file itself or in one of its own, and a proxy; both must
make sense. -/

namespace SpotRebalance

/-- A cluster of a kubeconfig file. -/
structure ClusterEntry where
  /-- The name. -/
  name : String
  /-- Whether it says anything about the cluster. -/
  present : Bool := true
  /-- The address of the API server. -/
  server : Option String := none
  /-- The certificate authority, in base 64. -/
  authorityData : Option String := none
  /-- The file of the certificate authority. -/
  authorityFile : Option String := none
  /-- The address of the proxy. -/
  proxy : Option String := none
  deriving DecidableEq

/-- What a context says. -/
structure ContextBody where
  /-- The name of the cluster. -/
  cluster : String
  /-- The namespace to use by default. -/
  ns : Option String := none
  deriving DecidableEq

/-- A context of a kubeconfig file. -/
structure ContextEntry where
  /-- The name. -/
  name : String
  /-- What it says. -/
  body : Option ContextBody := none
  deriving DecidableEq

/-- A kubeconfig file. -/
structure Kubeconfig where
  /-- The clusters. -/
  clusters : List ClusterEntry := []
  /-- The contexts. -/
  contexts : List ContextEntry := []
  /-- The name of the current context. -/
  currentContext : Option String := none
  deriving DecidableEq, Inhabited

/-- How to reach a cluster. -/
structure ClusterAccess where
  /-- The address of the API server. -/
  address : String
  /-- The namespace to use by default. -/
  ns : String
  deriving DecidableEq

/-- Why a kubeconfig file gives no access. -/
inductive KubeconfigFault where
  /-- No context is asked for and none is current. -/
  | noContext
  /-- The context is not there. -/
  | contextMissing (name : String)
  /-- The cluster of the context is not there. -/
  | clusterMissing (name : String)
  /-- The cluster has no address. -/
  | addressMissing
  /-- The address makes no sense. -/
  | invalidAddress (fault : UriFault)
  /-- The certificate authority cannot be read. -/
  | unreadableAuthority
  /-- The address of the proxy makes no sense. -/
  | invalidProxy (fault : UriFault)
  /-- The file cannot be opened. -/
  | fileMissing (path : String)
  /-- The file does not have the right structure, and why. -/
  | invalidStructure (reason : String)
  deriving DecidableEq

/-- The fault in words. -/
def KubeconfigFault.message : KubeconfigFault → String
  | noContext => "failed to determine current context"
  | contextMissing name => "failed to load current context: " ++ name
  | clusterMissing name => "failed to load the cluster of context: " ++ name
  | addressMissing => "cluster url is missing on selected cluster"
  | invalidAddress fault => "failed to parse cluster url: " ++ fault.message
  | unreadableAuthority => "failed to load certificate authority"
  | invalidProxy fault => "failed to parse proxy url: " ++ fault.message
  | fileMissing path =>
    "failed to read kubeconfig from '" ++ Text.quoted path ++
      "': No such file or directory (os error 2)"
  | invalidStructure reason => "the structure of the parsed kubeconfig is invalid: " ++ reason

/-- How a kubeconfig file was found. -/
inductive KubeconfigSource where
  /-- By a path that was given. -/
  | givenPath
  /-- Through the environment. -/
  | environment
  deriving DecidableEq

namespace ClusterEntry

/-- Checks the certificate authority. What stands in the kubeconfig file itself comes first; there
is no other file. -/
def checkAuthority (c : ClusterEntry) : Except KubeconfigFault Unit :=
  match c.authorityData, c.authorityFile with
  | some data, _ =>
    if (Text.Base64.decode? data.toList).isSome then .ok () else .error .unreadableAuthority
  | none, some _ => .error .unreadableAuthority
  | none, none => .ok ()

/-- Checks the address of the proxy. An empty one is none. -/
def checkProxy (c : ClusterEntry) : Except KubeconfigFault Unit :=
  match c.proxy.filter (· ≠ "") with
  | some proxy => ((Uri.parse proxy).map fun _ => ()).mapError .invalidProxy
  | none => .ok ()

end ClusterEntry

namespace Kubeconfig

/-- The access that a kubeconfig file gives. -/
def access (k : Kubeconfig) (asked : Option String) : Except KubeconfigFault ClusterAccess := do
  let some name := asked.or k.currentContext | .error .noContext
  let some context :=
    (k.contexts.find? (·.name == name)).bind (·.body) | .error (.contextMissing name)
  let some cluster := (k.clusters.find? (·.name == context.cluster)).filter (·.present)
    | .error (.clusterMissing context.cluster)
  let some server := cluster.server | .error .addressMissing
  let address ← (Uri.parse server).mapError .invalidAddress
  cluster.checkAuthority
  cluster.checkProxy
  .ok ⟨address.text, context.ns.getD "default"⟩

/-- The access that a kubeconfig file at a path gives, if it could be read. -/
def load (file : Except KubeconfigFault Kubeconfig) (path : String) (source : KubeconfigSource)
    (asked : Option String) : Except AccessFault ClusterAccess :=
  match file, source with
  | .error fault, .givenPath => .error ⟨"reading " ++ path ++ ": " ++ fault.message⟩
  | .error fault, .environment => .error ⟨fault.message⟩
  | .ok k, _ =>
    match k.access asked with
    | .ok access => .ok access
    | .error fault => .error ⟨fault.message⟩

end Kubeconfig

end SpotRebalance
